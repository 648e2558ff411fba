import Mathlib.Data.String.Basic
import SubscriptionGateway.Text.Cuts

/-! Where texts are cut: at the first or last occurrence of a character, between byte offsets, and
at white space. -/
namespace SubscriptionGateway.Text

open String (utf8Len)

variable {cs before after gap word rest : List Char} {mark : Char} {offset : Nat}

/-! ## Offsets of a character -/

theorem offsetOf?_eq_some (h : offsetOf? mark cs = some offset) :
    ∃ before after, cs = before ++ mark :: after ∧ mark ∉ before ∧ offset = utf8Len before := by
  induction cs generalizing offset with
  | nil => simp [offsetOf?] at h
  | cons c rest ih =>
    by_cases hc : c = mark
    · refine ⟨[], rest, by simp [hc], by simp, ?_⟩
      simpa [offsetOf?, hc, eq_comm] using h
    · simp only [offsetOf?, hc, if_false, Option.map_eq_some_iff] at h
      obtain ⟨later, found, rfl⟩ := h
      obtain ⟨before, after, rfl, fresh, rfl⟩ := ih found
      refine ⟨c :: before, after, rfl, ?_, ?_⟩
      · simp [fresh, Ne.symm hc]
      · rw [String.utf8Len_cons, Nat.add_comm]

theorem offsetOf?_append (fresh : mark ∉ before) :
    offsetOf? mark (before ++ mark :: after) = some (utf8Len before) := by
  induction before with
  | nil => simp [offsetOf?]
  | cons c before ih =>
    have hc : c ≠ mark := fun h => fresh (by simp [h])
    have found := ih fun h => fresh (List.mem_cons_of_mem c h)
    simp [offsetOf?, hc, found, Nat.add_comm]

theorem lastOffsetOf?_eq_none : lastOffsetOf? mark cs = none ↔ mark ∉ cs := by
  induction cs with
  | nil => simp [lastOffsetOf?]
  | cons c rest ih =>
    cases found : lastOffsetOf? mark rest with
    | none => simp [lastOffsetOf?, found, ih.mp found, eq_comm]
    | some later =>
      have there : mark ∈ rest := by
        by_contra away
        simp [ih.mpr away] at found
      simp [lastOffsetOf?, found, there]

theorem lastOffsetOf?_append (fresh : mark ∉ after) :
    lastOffsetOf? mark (before ++ mark :: after) = some (utf8Len before) := by
  induction before with
  | nil => simp [lastOffsetOf?, lastOffsetOf?_eq_none.mpr fresh]
  | cons c before ih => simp [lastOffsetOf?, ih, Nat.add_comm]

theorem lastOffsetOf?_eq_some (h : lastOffsetOf? mark cs = some offset) :
    ∃ before after, cs = before ++ mark :: after ∧ mark ∉ after ∧ offset = utf8Len before := by
  induction cs generalizing offset with
  | nil => simp [lastOffsetOf?] at h
  | cons c rest ih =>
    cases found : lastOffsetOf? mark rest with
    | none =>
      obtain ⟨hc, rfl⟩ : c = mark ∧ 0 = offset := by simpa [lastOffsetOf?, found] using h
      exact ⟨[], rest, by simp [hc], lastOffsetOf?_eq_none.mp found, by simp⟩
    | some later =>
      obtain ⟨before, after, rfl, fresh, rfl⟩ := ih found
      refine ⟨c :: before, after, rfl, fresh, ?_⟩
      have sum : c.utf8Size + utf8Len before = offset := by simpa [lastOffsetOf?, found] using h
      rw [String.utf8Len_cons, ← sum, Nat.add_comm]

/-! ## Slices -/

theorem slice_eq {text : String} {start stop : Nat} (l m r : List Char)
    (parts : text.toList = l ++ (m ++ r)) (starts : start = utf8Len l)
    (stops : stop = utf8Len l + utf8Len m) : slice text start stop = .ok (.ofList m) := by
  have joined : text = .ofList (l ++ m ++ r) := by
    rw [← String.ofList_toList (s := text), parts, List.append_assoc]
  subst joined starts stops
  have start : String.Pos.Raw.IsValid (String.ofList (l ++ m ++ r)) ⟨utf8Len l⟩ := by
    apply String.Pos.Raw.isValid_iff_exists_append.mpr
    refine ⟨.ofList l, .ofList (m ++ r), ?_, (String.rawEndPos_ofList l).symm⟩
    rw [← String.ofList_append, List.append_assoc]
  have stop : String.Pos.Raw.IsValid (String.ofList (l ++ m ++ r)) ⟨utf8Len l + utf8Len m⟩ := by
    apply String.Pos.Raw.isValid_iff_exists_append.mpr
    refine ⟨.ofList (l ++ m), .ofList r, String.ofList_append, ?_⟩
    rw [String.rawEndPos_ofList, String.utf8Len_append]
  rw [slice, if_pos ⟨Nat.le_add_right _ _, start, stop⟩, String.extract_of_valid]

/-! ## White space -/

/-- The code points that Unicode gives the property `White_Space`. -/
def whiteSpace : List Nat :=
  [0x09, 0x0A, 0x0B, 0x0C, 0x0D, 0x20, 0x85, 0xA0, 0x1680, 0x2000, 0x2001, 0x2002, 0x2003, 0x2004,
    0x2005, 0x2006, 0x2007, 0x2008, 0x2009, 0x200A, 0x2028, 0x2029, 0x202F, 0x205F, 0x3000]

theorem isBlank_iff (c : Char) : isBlank c = true ↔ c.toNat ∈ whiteSpace := by
  simp only [isBlank, whiteSpace, List.mem_cons, List.not_mem_nil, or_false,
    Bool.or_eq_true, Bool.and_eq_true, decide_eq_true_eq, beq_iff_eq]
  omega

theorem isBlank_eq_false_iff (c : Char) : isBlank c = false ↔ c.toNat ∉ whiteSpace := by
  rw [← isBlank_iff, Bool.not_eq_true]

def Blanks (cs : List Char) : Prop := ∀ c ∈ cs, isBlank c = true

structure IsToken (cs : List Char) : Prop where
  inhabited : cs ≠ []
  solid : ∀ c ∈ cs, isBlank c = false

def Parted (cs : List Char) : Prop := ∀ c ∈ cs.head?, isBlank c = true

theorem Blanks.takeWhile (cs : List Char) : Blanks (cs.takeWhile isBlank) :=
  List.all_eq_true.mp List.all_takeWhile

theorem Blanks.reverse (h : Blanks cs) : Blanks cs.reverse :=
  fun c hc => h c (List.mem_reverse.mp hc)

theorem IsToken.reverse (h : IsToken cs) : IsToken cs.reverse where
  inhabited := by simpa using h.inhabited
  solid c hc := h.solid c (List.mem_reverse.mp hc)

theorem dropWhile_gap (blank : Blanks gap) (whole : IsToken word) :
    (gap ++ (word ++ rest)).dropWhile isBlank = word ++ rest := by
  rw [List.dropWhile_append_of_pos blank]
  cases word with
  | nil => exact absurd rfl whole.inhabited
  | cons c word => simp [whole.solid c (by simp)]

theorem trim_word {left right : List Char} (leading : Blanks left) (whole : IsToken word)
    (trailing : Blanks right) : trim (left ++ (word ++ right)) = word := by
  have fromEnd : (right.reverse ++ (word.reverse ++ [])).dropWhile isBlank = word.reverse ++ [] :=
    dropWhile_gap trailing.reverse whole.reverse
  rw [List.append_nil] at fromEnd
  rw [trim, trimStart, dropWhile_gap leading whole, trimEnd, List.reverse_append, fromEnd,
    List.reverse_reverse]

theorem exists_trim (cs : List Char) :
    ∃ left right, cs = left ++ (trim cs ++ right) ∧ Blanks left ∧ Blanks right := by
  refine ⟨cs.takeWhile isBlank, ((trimStart cs).reverse.takeWhile isBlank).reverse, ?_,
    .takeWhile cs, (Blanks.takeWhile _).reverse⟩
  rw [trim, trimEnd, ← List.reverse_append, List.takeWhile_append_dropWhile, List.reverse_reverse,
    trimStart, List.takeWhile_append_dropWhile]

theorem words_gap (blank : Blanks gap) : words (gap ++ rest) = words rest := by
  induction gap with
  | nil => rfl
  | cons c gap ih =>
    obtain ⟨first, others⟩ := List.forall_mem_cons.mp blank
    rw [List.cons_append, words.eq_def (c :: (gap ++ rest))]
    simp only [first, if_true, ih others]

theorem words_word (whole : IsToken word) (parted : Parted rest) :
    words (word ++ rest) = word :: words rest := by
  induction word with
  | nil => exact absurd rfl whole.inhabited
  | cons c word ih =>
    obtain ⟨first, others⟩ := List.forall_mem_cons.mp whole.solid
    cases word with
    | nil =>
      rw [List.singleton_append, words.eq_def (c :: rest)]
      cases rest with
      | nil => simp only [first, words.eq_def [], Bool.false_eq_true, if_false]
      | cons next rest =>
        have blank : isBlank next = true := parted next rfl
        simp only [first, blank, Bool.false_eq_true, if_false, if_true]
    | cons d word =>
      have solid : isBlank d = false := others d List.mem_cons_self
      have later := ih ⟨List.cons_ne_nil d word, others⟩
      rw [List.cons_append, words.eq_def (c :: _)]
      simp only [List.cons_append] at later ⊢
      simp only [first, solid, later, Bool.false_eq_true, if_false]

theorem exists_word (h : ¬ Blanks cs) :
    ∃ gap word rest, cs = gap ++ (word ++ rest) ∧ Blanks gap ∧ IsToken word ∧ Parted rest := by
  have next := List.head?_dropWhile_not isBlank cs
  cases inner : cs.dropWhile isBlank with
  | nil =>
    have whole : cs.takeWhile isBlank = cs := by
      rw [← List.append_nil (cs.takeWhile isBlank), ← inner, List.takeWhile_append_dropWhile]
    exact absurd (whole ▸ Blanks.takeWhile cs) h
  | cons c others =>
    have solid : isBlank c = false := by simpa [inner] using next
    refine ⟨cs.takeWhile isBlank, c :: others.takeWhile (!isBlank ·), others.dropWhile (!isBlank ·),
      ?_, .takeWhile cs, ⟨List.cons_ne_nil _ _, ?_⟩, ?_⟩
    · rw [List.cons_append, List.takeWhile_append_dropWhile, ← inner,
        List.takeWhile_append_dropWhile]
    · refine List.forall_mem_cons.mpr ⟨solid, fun d hd => ?_⟩
      have kept := List.all_eq_true.mp List.all_takeWhile d hd
      simpa using kept
    · intro d hd
      have stop := List.head?_dropWhile_not (!isBlank ·) others
      rw [Option.mem_def.mp hd] at stop
      simpa using stop

theorem words_eq_nil : words cs = [] ↔ Blanks cs := by
  constructor
  · intro h
    by_contra solid
    obtain ⟨gap, word, rest, rfl, blank, whole, parted⟩ := exists_word solid
    simp [words_gap blank, words_word whole parted] at h
  · intro blank
    have gone : words (cs ++ []) = words [] := words_gap blank
    rwa [List.append_nil] at gone

theorem words_eq_cons {first : List Char} {later : List (List Char)}
    (h : words cs = first :: later) :
    ∃ gap rest, cs = gap ++ (first ++ rest) ∧ Blanks gap ∧ IsToken first ∧ Parted rest ∧
      words rest = later := by
  have solid : ¬ Blanks cs := fun blank => by simp [words_eq_nil.mpr blank] at h
  obtain ⟨gap, word, rest, rfl, blank, whole, parted⟩ := exists_word solid
  rw [words_gap blank, words_word whole parted] at h
  obtain ⟨rfl, rfl⟩ := List.cons.inj h
  exact ⟨gap, rest, rfl, blank, whole, parted, rfl⟩

end SubscriptionGateway.Text
