import SubscriptionGateway.Proofs.Json.RoundTrip

/-! The number literals that stand in a text, and what is read if all of them are integers. -/
namespace SubscriptionGateway.Json

/-- Where a scan of a text stands: between its literals, in a number as far as it goes, in a string,
or behind the backslash of an escape. -/
inductive Place where
  | between
  | number (soFar : List Char)
  | quoted
  | escaped

def Place.enter (c : Char) : Place :=
  if c = '"' then .quoted
  else if c.isDigit || c == '-' then .number [c]
  else .between

/-- The number literals of a text, in order. One begins with a digit or a minus outside of strings,
and goes on as long as the characters are those of numbers. -/
def literals : Place → List Char → List (List Char)
  | .number soFar, [] => [soFar]
  | .between, [] | .quoted, [] | .escaped, [] => []
  | .between, c :: cs => literals (.enter c) cs
  | .number soFar, c :: cs =>
    if isNumeric c then literals (.number (soFar ++ [c])) cs else soFar :: literals (.enter c) cs
  | .quoted, c :: cs =>
    if c = '\\' then literals .escaped cs
    else if c = '"' then literals .between cs
    else literals .quoted cs
  | .escaped, _ :: cs => literals .quoted cs

/-- All number literals of a text are integers of 64 bits; a negative zero is none. -/
def IntegersOnly (cs : List Char) : Prop :=
  ∀ literal ∈ literals .between cs, ∃ n, IsWord n ∧ literal = integerText n

section Scan

theorem literals_cons {c : Char} (plain : Place.enter c = .between) (cs : List Char) :
    literals .between (c :: cs) = literals .between cs := by
  rw [literals, plain]

theorem literals_quoted_cons {c : Char} (quote : c ≠ '"') (escape : c ≠ '\\') (cs : List Char) :
    literals .quoted (c :: cs) = literals .quoted cs := by
  simp [literals, quote, escape]

theorem literals_skipBlank (cs : List Char) :
    literals .between (skipBlank cs) = literals .between cs := by
  induction cs with
  | nil => rfl
  | cons c cs ih =>
    by_cases blank : isBlank c = true
    · have same : skipBlank (c :: cs) = skipBlank cs := by simp [skipBlank, blank]
      have plain : Place.enter c = .between := by
        simp only [isBlank, Bool.or_eq_true, beq_iff_eq] at blank
        rcases blank with ((rfl | rfl) | rfl) | rfl <;> rfl
      rw [same, ih, literals_cons plain]
    · rw [skipBlank_cons (by simpa using blank)]

theorem literals_number (soFar cs : List Char) : literals (.number soFar) cs =
    (soFar ++ cs.takeWhile isNumeric) :: literals .between (cs.dropWhile isNumeric) := by
  induction cs generalizing soFar with
  | nil => simp [literals]
  | cons c cs ih =>
    by_cases numeric : isNumeric c = true
    · simp [literals, numeric, ih]
    · simp [literals, numeric]

theorem ne_of_hexDigit? {c : Char} {n : Nat} (h : hexDigit? c = some n) : c ≠ '"' ∧ c ≠ '\\' := by
  constructor <;> rintro rfl <;> simp [hexDigit?] at h

theorem literals_codeUnit {a b c d : Char} {code : Nat} (h : codeUnit? a b c d = some code)
    (cs : List Char) : literals .quoted (a :: b :: c :: d :: cs) = literals .quoted cs := by
  unfold codeUnit? at h
  split at h
  · next first second third fourth =>
    obtain ⟨qa, ea⟩ := ne_of_hexDigit? first
    obtain ⟨qb, eb⟩ := ne_of_hexDigit? second
    obtain ⟨qc, ec⟩ := ne_of_hexDigit? third
    obtain ⟨qd, ed⟩ := ne_of_hexDigit? fourth
    rw [literals_quoted_cons qa ea, literals_quoted_cons qb eb, literals_quoted_cons qc ec,
      literals_quoted_cons qd ed]
  · cases h

theorem literals_escaped (e : Char) (cs : List Char) :
    literals .quoted ('\\' :: e :: cs) = literals .quoted cs := by
  simp [literals]

theorem Spells.literals {cs text rest : List Char} (h : Spells cs text rest) :
    literals .quoted cs = literals .between rest := by
  induction h with
  | stop rest => simp [Json.literals]
  | plain quote escape printed later ih => rw [literals_quoted_cons quote escape, ih]
  | short known later ih => rw [literals_escaped, ih]
  | unit digits whole start later ih => rw [literals_escaped, literals_codeUnit digits, ih]
  | pair first isHigh second isLow later ih =>
    rw [literals_escaped, literals_codeUnit first, literals_escaped, literals_codeUnit second, ih]

end Scan

section Integers

variable {cs inner rest : List Char}

theorem IntegersOnly.skipBlank (whole : IntegersOnly cs) : IntegersOnly (skipBlank cs) := by
  rwa [IntegersOnly, literals_skipBlank]

theorem IntegersOnly.behind {c : Char} (whole : IntegersOnly cs)
    (start : Json.skipBlank cs = c :: inner) (plain : Place.enter c = .between) :
    IntegersOnly inner := by
  rwa [IntegersOnly, ← literals_skipBlank, start, literals_cons plain] at whole

theorem IntegersOnly.behind_string {body text : List Char} (whole : IntegersOnly cs)
    (start : Json.skipBlank cs = '"' :: body) (quoted : stringBody body = some (text, rest)) :
    IntegersOnly rest := by
  have entered : literals .between ('"' :: body) = literals .quoted body := by
    simp [literals, Place.enter]
  rwa [IntegersOnly, ← literals_skipBlank, start, entered,
    (spells_of_stringBody quoted).literals] at whole

theorem IntegersOnly.number {found : Json} (whole : IntegersOnly cs)
    (start : number? (Json.skipBlank cs) = some (found, rest)) :
    found.Integral ∧ IntegersOnly rest := by
  obtain ⟨c, tail, split, first, -⟩ := start_of_number? start
  have entered : literals .between (c :: tail) =
      (c :: tail.takeWhile isNumeric) :: literals .between (tail.dropWhile isNumeric) := by
    have quote : c ≠ '"' := by rintro rfl; simp at first
    simpa [literals, Place.enter, quote, first] using literals_number [c] tail
  rw [IntegersOnly, ← literals_skipBlank, split, entered] at whole
  obtain ⟨n, word, same⟩ := whole _ List.mem_cons_self
  have stop : Stops (tail.dropWhile isNumeric) := by
    intro d isNext
    have other := List.head?_dropWhile_not isNumeric tail
    rwa [isNext] at other
  have cut : c :: tail = integerText n ++ tail.dropWhile isNumeric := by
    rw [← same, List.cons_append, List.takeWhile_append_dropWhile]
  rw [split, cut, number?_integerText word stop] at start
  cases start
  exact ⟨.integer word, fun literal member => whole literal (List.mem_cons_of_mem _ member)⟩

theorem IntegersOnly.behind_word {word : String} {found : Json} (known : (word, found) ∈ keywords)
    (whole : IntegersOnly (word.toList ++ rest)) : found.Integral ∧ IntegersOnly rest := by
  simp only [keywords, List.mem_cons, Prod.mk.injEq, List.not_mem_nil, or_false] at known
  rcases known with ⟨rfl, rfl⟩ | ⟨rfl, rfl⟩ | ⟨rfl, rfl⟩
  · exact ⟨.null, by simpa [IntegersOnly, literals, Place.enter] using whole⟩
  · exact ⟨.bool true, by simpa [IntegersOnly, literals, Place.enter] using whole⟩
  · exact ⟨.bool false, by simpa [IntegersOnly, literals, Place.enter] using whole⟩

/-- Integers are all that is read of a text with no other number literals. -/
theorem Reads.integral {depth : Nat} {reading : Reading} (h : Reads depth cs reading rest)
    (whole : IntegersOnly cs) : reading.All Integral ∧ IntegersOnly rest := by
  induction h with
  | string start quoted => exact ⟨.string _, whole.behind_string start quoted⟩
  | keyword known start =>
    have word := whole.skipBlank
    rw [start] at word
    exact word.behind_word known
  | number start => exact whole.number start
  | emptyArray start stop => exact ⟨.array (by simp), (whole.behind start rfl).behind stop rfl⟩
  | array start inside ih =>
    obtain ⟨items, after⟩ := ih (whole.behind start rfl).skipBlank
    exact ⟨.array items, after⟩
  | emptyObject start stop => exact ⟨.object (by simp), (whole.behind start rfl).behind stop rfl⟩
  | object start inside ih =>
    obtain ⟨members, after⟩ := ih (whole.behind start rfl).skipBlank
    exact ⟨.object fun m member => members m (Members.mem_ofList member), after⟩
  | lastItem first stop ih =>
    obtain ⟨item, after⟩ := ih whole
    exact ⟨List.forall_mem_singleton.mpr item, after.behind stop rfl⟩
  | nextItem first comma later ih tail =>
    obtain ⟨item, after⟩ := ih whole
    obtain ⟨items, last⟩ := tail (after.behind comma rfl)
    exact ⟨List.forall_mem_cons.mpr ⟨item, items⟩, last⟩
  | lastMember start quoted named first stop ih =>
    have key := whole.behind_string start quoted
    obtain ⟨value, after⟩ := ih (key.behind named rfl)
    exact ⟨List.forall_mem_singleton.mpr value, after.behind stop rfl⟩
  | nextMember start quoted named first comma later ih tail =>
    have key := whole.behind_string start quoted
    obtain ⟨value, after⟩ := ih (key.behind named rfl)
    obtain ⟨members, last⟩ := tail (after.behind comma rfl)
    exact ⟨List.forall_mem_cons.mpr ⟨value, members⟩, last⟩

end Integers

theorem canonical_of_read? {text : String} {value : Json} (h : read? text = some value)
    (whole : IntegersOnly text.toList) : value.Canonical := by
  obtain ⟨rest, reads, -⟩ := read?_eq_some.mp h
  exact ⟨(reads.integral whole).1, reads.all.1⟩

end SubscriptionGateway.Json
