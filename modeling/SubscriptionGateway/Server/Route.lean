import SubscriptionGateway.Settings.Settings

/-! Routes. The path of the upgrade is a pattern: a name in braces stands for a whole segment or for
the rest of one, a name in braces that begins with an asterisk stands for all that is left, and a
doubled brace stands for itself. A pattern without braces is met by its own text only. -/
namespace SubscriptionGateway

inductive Route where
  | socket
  | health
  | metrics
deriving DecidableEq, Repr

/-- The routes that a server has anyway. -/
def Route.ofFixedPath? (path : String) : Option Route :=
  if path = "/health" then some .health
  else if path = "/metrics" then some .metrics
  else none

/-- What a pattern is written with. -/
inductive PatternToken where
  | char (value : Char)
  | opening
  | closing
deriving DecidableEq, Repr

inductive PatternPiece where
  | char (value : Char)
  /-- Characters other than a slash, as many as there are and at least one. -/
  | segment
  /-- All that is left, and at least one character. -/
  | rest
deriving DecidableEq, Repr

namespace PatternToken

/-- Doubled braces are characters, taken from the left. -/
def scan : List Char → List PatternToken
  | '\x7b' :: '\x7b' :: later => .char '\x7b' :: scan later
  | '\x7d' :: '\x7d' :: later => .char '\x7d' :: scan later
  | '\x7b' :: later => .opening :: scan later
  | '\x7d' :: later => .closing :: scan later
  | c :: later => .char c :: scan later
  | [] => []

/-- What follows the closing brace of a name. A name has neither slashes nor asterisks after its
first character, which is not among these tokens. -/
def afterName? : List PatternToken → Option (List PatternToken)
  | [] => none
  | .closing :: later => some later
  | .char '*' :: _ | .char '/' :: _ => none
  | _ :: later => afterName? later

/-- The piece whose opening brace has just been read, and what follows it. The rest of a segment
ends with the segment, and the rest of a path with the path. -/
def parameter? : List PatternToken → Option (PatternPiece × List PatternToken)
  | [] | .closing :: _ | .char '\x7d' :: _ | .char '*' :: .closing :: _ => none
  | .char '*' :: name =>
    match afterName? name with
    | some [] => some (.rest, [])
    | _ => none
  | _ :: name =>
    match afterName? name with
    | some [] => some (.segment, [])
    | some (.char '/' :: later) => some (.segment, .char '/' :: later)
    | _ => none

theorem length_afterName? {tokens later : List PatternToken} (h : afterName? tokens = some later) :
    later.length < tokens.length := by
  fun_induction afterName? tokens with
  | case1 => cases h
  | case2 rest =>
    cases h
    simp
  | case3 => cases h
  | case4 => cases h
  | case5 token rest _ _ _ ih =>
    have := ih h
    simp only [List.length_cons]
    omega

theorem length_parameter? {tokens later : List PatternToken} {piece : PatternPiece}
    (h : parameter? tokens = some (piece, later)) : later.length < tokens.length := by
  unfold parameter? at h
  split at h
  · cases h
  · cases h
  · cases h
  · cases h
  · split at h
    · cases h
      simp
    · cases h
  · split at h
    · cases h
      simp
    · next found =>
      cases h
      have := length_afterName? found
      simp only [List.length_cons] at this ⊢
      omega
    · cases h

/-- The pieces of a pattern, if its braces can be paired. -/
def pieces? : List PatternToken → Option (List PatternPiece)
  | [] => some []
  | .char c :: later => (pieces? later).map (.char c :: ·)
  | .closing :: _ => none
  | .opening :: name =>
    match h : parameter? name with
    | none => none
    | some (piece, later) =>
      have := length_parameter? h
      (pieces? later).map (piece :: ·)
termination_by tokens => tokens.length

end PatternToken

namespace PatternPiece

/-- Whether a path meets a pattern. -/
def accept : List PatternPiece → List Char → Bool
  | [], path => path.isEmpty
  | .char _ :: _, [] => false
  | .char c :: later, d :: path => c == d && accept later path
  | .segment :: later, path =>
    !(path.takeWhile (· != '/')).isEmpty && accept later (path.dropWhile (· != '/'))
  | .rest :: _, path => !path.isEmpty

end PatternPiece

/-- A path that the upgrade can be found at. -/
structure RoutePattern where
  pieces : List PatternPiece
deriving DecidableEq, Repr

namespace RoutePattern

/-- Whether a segment begins with a colon or an asterisk; braces are the only way to write a
pattern. -/
def hasBareMark : List Char → Bool
  | '/' :: c :: later => c == ':' || c == '*' || hasBareMark (c :: later)
  | _ :: later => hasBareMark later
  | [] => false

/-- The greatest number of segments that a pattern may leave open. -/
def segmentLimit : Nat := 25

/-- The pattern that a path is written for, if the path can be a route beside those that a server
has anyway. -/
def ofPath? (path : String) : Option RoutePattern :=
  if isAbsolutePath path && !hasBareMark path.toList && (Route.ofFixedPath? path).isNone then
    match PatternToken.pieces? (PatternToken.scan path.toList) with
    | some pieces => if pieces.count .segment ≤ segmentLimit then some ⟨pieces⟩ else none
    | none => none
  else none

def accepts (p : RoutePattern) (path : String) : Bool := PatternPiece.accept p.pieces path.toList

end RoutePattern

namespace PatternToken

theorem scan_of_plain {text : List Char} (plain : ∀ c ∈ text, c ≠ '\x7b' ∧ c ≠ '\x7d') :
    scan text = text.map .char := by
  induction text with
  | nil => rfl
  | cons c text ih =>
    have head := plain c (by simp)
    have tail := ih fun d member => plain d (by simp [member])
    unfold scan
    split <;> simp_all

theorem pieces?_map_char (text : List Char) :
    pieces? (text.map .char) = some (text.map .char) := by
  induction text with
  | nil => simp [pieces?]
  | cons c text ih => simp [pieces?, ih]

end PatternToken

end SubscriptionGateway
