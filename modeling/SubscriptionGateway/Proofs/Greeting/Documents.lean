import SubscriptionGateway.Greeting.Engine
import SubscriptionGateway.Proofs.Text.Cuts

/-! Which documents the greeting engine reads: those that have a layout, and no others. A layout is
a document as somebody writes it, with the white space between its parts. -/
namespace SubscriptionGateway.Greeting

open Text (Blanks IsToken Parted whiteSpace)
open String (utf8Len utf8Len_append utf8Len_cons)

/-! ## Layouts -/

structure Space where
  chars : List Char
  blank : ∀ c ∈ chars, c.toNat ∈ whiteSpace

/-- The name of an operation, apart from what is before it: one word without an opening brace. -/
structure Label where
  gap : Space
  apart : gap.chars ≠ []
  name : List Char
  named : name ≠ []
  solid : ∀ c ∈ name, c.toNat ∉ whiteSpace
  unbraced : '\x7b' ∉ name

def OperationKind.keyword : OperationKind → String
  | .query => "query"
  | .subscription => "subscription"

/-- What stands before the opening brace: an operation type, and a name only after one. -/
structure Heading where
  lead : Space
  operation : Option (OperationKind × Option Label)
  trail : Space

def Heading.keyword (h : Heading) : Option String := h.operation.map fun o => o.1.keyword

def Heading.kind (h : Heading) : OperationKind := (h.operation.map Prod.fst).getD .query

def IsNameChar (c : Char) : Prop :=
  ('a' ≤ c ∧ c ≤ 'z') ∨ ('A' ≤ c ∧ c ≤ 'Z') ∨ ('0' ≤ c ∧ c ≤ '9') ∨ c = '_'

structure FieldName where
  text : String
  named : text ≠ ""
  plain : ∀ c ∈ text.toList, IsNameChar c

structure Layout where
  heading : Heading
  left : Space
  field : FieldName
  right : Space
  after : Space

def braced (head body tail : List Char) : String :=
  .ofList (head ++ '\x7b' :: (body ++ '\x7d' :: tail))

def Label.chars (l : Label) : List Char := l.gap.chars ++ l.name

def Heading.chars (h : Heading) : List Char :=
  let operation :=
    match h.operation with
    | none => []
    | some (kind, none) => kind.keyword.toList
    | some (kind, some label) => kind.keyword.toList ++ label.chars
  h.lead.chars ++ (operation ++ h.trail.chars)

def Layout.body (l : Layout) : List Char :=
  l.left.chars ++ (l.field.text.toList ++ l.right.chars)

def Layout.written (l : Layout) : String := braced l.heading.chars l.body l.after.chars

def Layout.document (l : Layout) : Document := ⟨l.heading.kind, l.field.text⟩

/-! ## White space and words in a layout -/

theorem Space.blanks (s : Space) : Blanks s.chars :=
  fun c hc => (Text.isBlank_iff c).mpr (s.blank c hc)

def Space.of {cs : List Char} (h : Blanks cs) : Space :=
  ⟨cs, fun c hc => (Text.isBlank_iff c).mp (h c hc)⟩

def Space.empty : Space := ⟨[], by simp⟩

theorem Space.lacks (s : Space) {c : Char} (solid : Text.isBlank c = false) : c ∉ s.chars :=
  fun hc => by simp [s.blanks c hc] at solid

theorem Label.word (l : Label) : IsToken l.name where
  inhabited := l.named
  solid c hc := (Text.isBlank_eq_false_iff c).mpr (l.solid c hc)

theorem OperationKind.keyword_word (k : OperationKind) : IsToken k.keyword.toList := by
  cases k <;>
    exact ⟨by simp [OperationKind.keyword], by simp [OperationKind.keyword, Text.isBlank]⟩

theorem isFieldChar_iff (c : Char) : isFieldChar c = true ↔ IsNameChar c := by
  have upper : c.isUpper = true ↔ 'A' ≤ c ∧ c ≤ 'Z' := decide_eq_true_iff
  have lower : c.isLower = true ↔ 'a' ≤ c ∧ c ≤ 'z' :=
    Bool.and_eq_true_iff.trans (and_congr decide_eq_true_iff decide_eq_true_iff)
  have letter : c.isAlpha = true ↔ c.isUpper = true ∨ c.isLower = true := Bool.or_eq_true_iff
  have digit : c.isDigit = true ↔ '0' ≤ c ∧ c ≤ '9' := by simp [Char.isDigit, Char.le_def]
  have other : c.isAlphanum = true ↔ c.isAlpha = true ∨ c.isDigit = true := Bool.or_eq_true_iff
  rw [isFieldChar, Bool.or_eq_true, beq_iff_eq, other, letter, digit, lower, upper, IsNameChar,
    or_comm (a := 'A' ≤ c ∧ c ≤ 'Z'), or_assoc, or_assoc]

theorem isBlank_of_isNameChar {c : Char} (h : IsNameChar c) : Text.isBlank c = false := by
  have code : (97 ≤ c.toNat ∧ c.toNat ≤ 122) ∨ (65 ≤ c.toNat ∧ c.toNat ≤ 90) ∨
      (48 ≤ c.toNat ∧ c.toNat ≤ 57) ∨ c.toNat = 95 := by
    rcases h with h | h | h | rfl
    · exact .inl h
    · exact .inr (.inl h)
    · exact .inr (.inr (.inl h))
    · exact .inr (.inr (.inr rfl))
  rw [Text.isBlank_eq_false_iff]
  simp only [whiteSpace, List.mem_cons, List.not_mem_nil, or_false]
  omega

theorem FieldName.word (f : FieldName) : IsToken f.text.toList where
  inhabited := by simpa using f.named
  solid c hc := isBlank_of_isNameChar (f.plain c hc)

/-! ## Headings -/

theorem Heading.lacks_brace (h : Heading) : '\x7b' ∉ h.chars := by
  have gone (s : Space) : '\x7b' ∉ s.chars := s.lacks (by decide)
  have keyword (k : OperationKind) : '\x7b' ∉ k.keyword.toList := by cases k <;> decide
  obtain ⟨lead, operation, trail⟩ := h
  rcases operation with - | ⟨kind, - | label⟩ <;>
    simp [Heading.chars, Label.chars, gone, keyword]
  exact label.unbraced

theorem Space.parted (s : Space) : Parted s.chars :=
  fun c hc => s.blanks c (List.mem_of_mem_head? hc)

theorem Label.parted (l : Label) (rest : List Char) : Parted (l.chars ++ rest) := by
  obtain ⟨c, cs, gap⟩ := List.exists_cons_of_ne_nil l.apart
  intro d hd
  have same : c = d := by simpa [Label.chars, gap] using hd
  exact same ▸ l.gap.blanks c (by simp [gap])

/-- The words of a heading: at most its keyword and its name. -/
theorem Heading.words (h : Heading) :
    Text.words h.chars =
      match h.operation with
      | none => []
      | some (kind, none) => [kind.keyword.toList]
      | some (kind, some label) => [kind.keyword.toList, label.name] := by
  have finished : Text.words h.trail.chars = [] := Text.words_eq_nil.mpr h.trail.blanks
  rw [Heading.chars, Text.words_gap h.lead.blanks]
  rcases h.operation with - | ⟨kind, - | label⟩
  · exact finished
  · simp only [Text.words_word kind.keyword_word h.trail.parted, finished]
  · simp only [List.append_assoc]
    rw [Text.words_word kind.keyword_word (label.parted _), Label.chars, List.append_assoc,
      Text.words_gap label.gap.blanks, Text.words_word label.word h.trail.parted, finished]

theorem ofKeyword?_eq_some {word : String} {kind : OperationKind} :
    OperationKind.ofKeyword? word = some kind ↔ word = kind.keyword := by
  rw [OperationKind.ofKeyword?]
  split
  case isTrue same => cases kind <;> simp [same, OperationKind.keyword]
  case isFalse other =>
    split
    case isTrue same => cases kind <;> simp [same, OperationKind.keyword]
    case isFalse neither => cases kind <;> simp [other, neither, OperationKind.keyword]

theorem headKind?_eq_some {head : List Char} {kind : OperationKind} :
    headKind? head = some kind ↔
      (Text.words head = [] ∧ kind = .query) ∨
        ∃ others, Text.words head = kind.keyword.toList :: others ∧ others.length ≤ 1 := by
  rw [headKind?]
  cases Text.words head with
  | nil =>
    simp only [Option.some.injEq, true_and, reduceCtorEq, false_and, exists_false, or_false]
    exact eq_comm
  | cons first others =>
    have spelled : String.ofList first = kind.keyword ↔ first = kind.keyword.toList := by
      rw [← String.toList_inj, String.toList_ofList]
    by_cases few : others.length ≤ 1
    · simp [few, ofKeyword?_eq_some, spelled]
    · simp [few]

theorem headKind?_heading (h : Heading) : headKind? h.chars = some h.kind := by
  rw [headKind?_eq_some, h.words, Heading.kind]
  rcases h.operation with - | ⟨kind, - | label⟩
  · exact .inl ⟨rfl, rfl⟩
  · exact .inr ⟨[], rfl, by simp⟩
  · exact .inr ⟨[label.name], rfl, by simp⟩

/-- What is read as a head is a heading. -/
theorem exists_heading {head : List Char} {kind : OperationKind} (unbraced : '\x7b' ∉ head)
    (h : headKind? head = some kind) :
    ∃ heading : Heading, heading.chars = head ∧ heading.kind = kind := by
  rcases headKind?_eq_some.mp h with ⟨empty, rfl⟩ | ⟨others, found, few⟩
  · exact ⟨⟨.of (Text.words_eq_nil.mp empty), none, .empty⟩, List.append_nil head, rfl⟩
  · obtain ⟨gap, rest, rfl, blank, -, parted, later⟩ := Text.words_eq_cons found
    cases others with
    | nil =>
      exact ⟨⟨.of blank, some (kind, none), .of (Text.words_eq_nil.mp later)⟩, rfl, rfl⟩
    | cons name more =>
      obtain rfl : more = [] := by simpa using few
      obtain ⟨between, trail, rfl, apart, named, -, finished⟩ := Text.words_eq_cons later
      -- without white space the keyword and the name would be one word
      have gapped : between ≠ [] := by
        rintro rfl
        obtain ⟨c, cs, rfl⟩ := List.exists_cons_of_ne_nil named.inhabited
        have blank := parted c rfl
        simp [named.solid c List.mem_cons_self] at blank
      let label : Label :=
        ⟨.of apart, gapped, name, named.inhabited,
          fun c hc => (Text.isBlank_eq_false_iff c).mp (named.solid c hc),
          fun inside => unbraced (by simp [inside])⟩
      refine ⟨⟨.of blank, some (kind, some label), .of (Text.words_eq_nil.mp finished)⟩, ?_, rfl⟩
      simp [Heading.chars, Label.chars, label, Space.of]

/-! ## Fields -/

theorem field?_body (l : Layout) : field? l.body = some l.field.text := by
  have trimmed : Text.trim l.body = l.field.text.toList :=
    Text.trim_word l.left.blanks l.field.word l.right.blanks
  have plain : l.field.text.toList.all isFieldChar = true :=
    List.all_eq_true.mpr fun c hc => (isFieldChar_iff c).mpr (l.field.plain c hc)
  have named : l.field.text.toList.isEmpty = false :=
    List.isEmpty_eq_false_iff.mpr l.field.word.inhabited
  simp only [field?, trimmed, named, plain, Bool.not_false, Bool.and_self, if_true,
    String.ofList_toList]

theorem exists_field {body : List Char} {text : String} (h : field? body = some text) :
    ∃ (left right : Space) (field : FieldName),
      body = left.chars ++ (field.text.toList ++ right.chars) ∧ field.text = text := by
  obtain ⟨left, right, split, leading, trailing⟩ := Text.exists_trim body
  simp only [field?, Option.ite_none_right_eq_some, Bool.and_eq_true, Bool.not_eq_true',
    List.isEmpty_eq_false_iff, List.all_eq_true, Option.some.injEq] at h
  obtain ⟨⟨named, plain⟩, rfl⟩ := h
  let field : FieldName :=
    ⟨.ofList (Text.trim body), by simpa using named, fun c hc =>
      (isFieldChar_iff c).mp (plain c (by simpa using hc))⟩
  exact ⟨.of leading, .of trailing, field, by simpa [Space.of, field] using split, rfl⟩

/-! ## Slices -/

section Braced

variable (head body tail : List Char)

theorem toList_braced :
    (braced head body tail).toList = head ++ '\x7b' :: (body ++ '\x7d' :: tail) :=
  String.toList_ofList

theorem braces_size : Char.utf8Size '\x7b' = 1 ∧ Char.utf8Size '\x7d' = 1 := by decide

theorem utf8ByteSize_braced :
    (braced head body tail).utf8ByteSize = utf8Len head + 1 + utf8Len body + 1 + utf8Len tail := by
  rw [braced, String.utf8ByteSize_ofList]
  simp only [utf8Len_append, utf8Len_cons, braces_size]
  omega

theorem opening_braced (first : '\x7b' ∉ head) :
    Text.offsetOf? '\x7b' (braced head body tail).toList = some (utf8Len head) := by
  rw [toList_braced, Text.offsetOf?_append first]

theorem closing_braced (last : '\x7d' ∉ tail) :
    Text.lastOffsetOf? '\x7d' (braced head body tail).toList =
      some (utf8Len head + 1 + utf8Len body) := by
  rw [toList_braced, ← List.cons_append, ← List.append_assoc, Text.lastOffsetOf?_append last]
  simp only [utf8Len_append, utf8Len_cons, braces_size, Option.some.injEq]
  omega

theorem slice_head :
    Text.slice (braced head body tail) 0 (utf8Len head) = .ok (.ofList head) :=
  Text.slice_eq [] head _ (toList_braced head body tail) rfl (Nat.zero_add _).symm

theorem slice_body :
    Text.slice (braced head body tail) (utf8Len head + 1) (utf8Len head + 1 + utf8Len body) =
      .ok (.ofList body) := by
  have upTo : utf8Len (head ++ ['\x7b']) = utf8Len head + 1 := by simp [braces_size]
  apply Text.slice_eq (head ++ ['\x7b']) body ('\x7d' :: tail)
  · simp [toList_braced]
  · rw [upTo]
  · rw [upTo]

theorem slice_tail :
    Text.slice (braced head body tail) (utf8Len head + 1 + utf8Len body + 1)
      (braced head body tail).utf8ByteSize = .ok (.ofList tail) := by
  have upTo : utf8Len (head ++ '\x7b' :: (body ++ ['\x7d'])) =
      utf8Len head + 1 + utf8Len body + 1 := by
    simp only [utf8Len_append, utf8Len_cons, String.utf8Len_nil, braces_size]
    omega
  apply Text.slice_eq (head ++ '\x7b' :: (body ++ ['\x7d'])) tail []
  · simp [toList_braced]
  · rw [upTo]
  · rw [upTo, utf8ByteSize_braced]

/-- What the three stretches of a braced text are read as. -/
def document? : Option Document :=
  match headKind? head with
  | none => none
  | some kind => if tail.all Text.isBlank then (field? body).map (Document.mk kind) else none

theorem parse_braced (first : '\x7b' ∉ head) (last : '\x7d' ∉ tail) :
    parse (braced head body tail) = .ok (document? head body tail) := by
  have ordered : ¬ utf8Len head + 1 + utf8Len body < utf8Len head := by omega
  rw [parse, opening_braced head body tail first, closing_braced head body tail last]
  simp only [ordered, if_false, slice_head, slice_body, slice_tail, String.toList_ofList, bind,
    Except.bind, document?]
  cases headKind? head with
  | none => rfl
  | some kind =>
    by_cases blank : tail.all Text.isBlank = true
    · simp only [blank, if_true]; rfl
    · simp only [blank]; rfl

end Braced

/-- A text whose braces are missing or the wrong way round is no document; any other text is cut at
its outer braces. -/
theorem parse_cases (query : String) :
    parse query = .ok none ∨
      ∃ head body tail, query = braced head body tail ∧ '\x7b' ∉ head ∧ '\x7d' ∉ tail := by
  cases opens : Text.offsetOf? '\x7b' query.toList with
  | none => exact .inl (by simp [parse, opens])
  | some opening =>
    cases closes : Text.lastOffsetOf? '\x7d' query.toList with
    | none => exact .inl (by simp [parse, opens, closes])
    | some closing =>
      by_cases reversed : closing < opening
      · exact .inl (by simp [parse, opens, closes, reversed])
      obtain ⟨head, rest, opened, unbraced, rfl⟩ := Text.offsetOf?_eq_some opens
      obtain ⟨lead, tail, closed, final, rfl⟩ := Text.lastOffsetOf?_eq_some closes
      rcases List.append_eq_append_iff.mp (opened.symm.trans closed) with
        ⟨between, -, inner⟩ | ⟨between, outer, inner⟩
      · cases between with
        | nil => exact absurd (List.cons.inj inner).1 (by decide)
        | cons c body =>
          have parts : query.toList = head ++ '\x7b' :: (body ++ '\x7d' :: tail) := by
            rw [opened, (List.cons.inj inner).2, List.append_eq]
          exact .inr
            ⟨head, body, tail, by rw [braced, ← parts, String.ofList_toList], unbraced, final⟩
      · cases between with
        | nil => exact absurd (List.cons.inj inner).1 (by decide)
        | cons c body =>
          -- then the last closing brace would stand before the first opening one
          have positive := c.utf8Size_pos
          simp only [outer, utf8Len_append, utf8Len_cons] at reversed
          omega

/-- No slice that is taken lies outside the text or cuts a character. -/
theorem parse_total (query : String) : ∃ found, parse query = .ok found := by
  rcases parse_cases query with refused | ⟨head, body, tail, rfl, first, last⟩
  · exact ⟨none, refused⟩
  · exact ⟨_, parse_braced head body tail first last⟩

theorem engine_never_panics (interval : Nat) (request : Request) (context : Context)
    (cause : Panic) : (engine interval request context).answer ≠ .panicked cause := by
  obtain ⟨found, read⟩ := parse_total request.query
  simp only [engine, read]
  cases found with
  | none => simp [Execution.refusing]
  | some d =>
    simp only [execute]
    split <;> simp [Execution.ofSteps, Execution.refusing]

/-! ## Exactly the layouts -/

theorem parse_written (l : Layout) : parse l.written = .ok (some l.document) := by
  have final : '\x7d' ∉ l.after.chars := l.after.lacks (by decide)
  have blank : l.after.chars.all Text.isBlank = true := List.all_eq_true.mpr l.after.blanks
  rw [Layout.written, parse_braced _ _ _ l.heading.lacks_brace final, document?, headKind?_heading,
    field?_body]
  simp only [blank, if_true, Option.map_some, Layout.document]

theorem exists_layout {head body tail : List Char} {d : Document} (unbraced : '\x7b' ∉ head)
    (h : document? head body tail = some d) :
    ∃ l : Layout, l.written = braced head body tail ∧ l.document = d := by
  rw [document?] at h
  cases kinds : headKind? head with
  | none => simp [kinds] at h
  | some kind =>
    simp only [kinds, Option.ite_none_right_eq_some, Option.map_eq_some_iff] at h
    obtain ⟨blank, text, fields, rfl⟩ := h
    obtain ⟨heading, rfl, rfl⟩ := exists_heading unbraced kinds
    obtain ⟨left, right, field, rfl, rfl⟩ := exists_field fields
    exact ⟨⟨heading, left, field, right, .of (List.all_eq_true.mp blank)⟩, rfl, rfl⟩

/-- Reading a document never cuts it outside the text or inside a character. It succeeds exactly on
the texts that have a layout, whichever layout that is, with its field and with the kind that its
keyword names. -/
theorem parse_is_exact (query : String) :
    (∃ found, parse query = .ok found) ∧
    (∀ d, parse query = .ok (some d) ↔ ∃ l : Layout, l.written = query ∧ l.document = d) ∧
    ∀ l : Layout, parse l.written = .ok (some l.document) ∧ l.document.field = l.field.text ∧
      (l.document.kind = .subscription ↔ l.heading.keyword = some "subscription") := by
  refine ⟨parse_total query, fun d => ⟨fun h => ?_, ?_⟩, fun l => ⟨parse_written l, rfl, ?_⟩⟩
  · rcases parse_cases query with refused | ⟨head, body, tail, rfl, first, last⟩
    · simp [refused] at h
    · rw [parse_braced head body tail first last, Except.ok.injEq] at h
      exact exists_layout first h
  · rintro ⟨l, rfl, rfl⟩
    exact parse_written l
  · rcases operation : l.heading.operation with - | ⟨kind | kind, label⟩ <;>
      simp [Layout.document, Heading.kind, Heading.keyword, operation, OperationKind.keyword]

end SubscriptionGateway.Greeting
