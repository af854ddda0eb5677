import Mathlib
import Rowwise.Proofs.Text.Runs
import Rowwise.Text.Word

/-!
# Text — Title

Title case block by block (`title_eq_blocks`): white space stays in place, since none of it is in a
word, and every run of other characters is changed by itself. In ASCII, where case goes character by
character, title case changes nothing but case (`lower_title`), and a word starts where it started
(`title_title`).
-/

namespace Rowwise.Text

variable {c : Char} {text run after part : Text}

/-- White space is in no word. -/
theorem isWord_of_isSpace (h : isSpace c) : isWord c = false := by
  have hnone : ∀ code ∈ [0x20, 0x85, 0xA0, 0x1680, 0x2028, 0x2029, 0x202F, 0x205F, 0x3000] ++
      List.range' 0x9 5 ++ List.range' 0x2000 11, isWord (Char.ofNat code) = false := by
    decide +kernel
  have hcode : c.toNat ∈ [0x20, 0x85, 0xA0, 0x1680, 0x2028, 0x2029, 0x202F, 0x205F, 0x3000] ++
      List.range' 0x9 5 ++ List.range' 0x2000 11 := by
    simp [isSpace] at h
    simp
    omega
  rw [← Char.ofNat_toNat c]
  exact hnone _ hcode

@[simp] theorem title_nil : title [] = [] := by
  rw [title]

theorem title_word (h : isWord c) (text : Text) : title (c :: text) =
    capitalize (c :: text.takeWhile (!isSpace ·)) ++ title (text.dropWhile (!isSpace ·)) := by
  rw [title, if_pos h]

theorem title_other (h : isWord c = false) (text : Text) : title (c :: text) = c :: title text := by
  rw [title, if_neg (Bool.eq_false_iff.mp h)]

/-! ## Runs -/

theorem title_stops (h : Stops (!isSpace ·) text) : Stops (!isSpace ·) (title text) := by
  cases text with
  | nil => rwa [title_nil]
  | cons c text =>
    have hc : isSpace c := by simpa using h c rfl
    rw [title_other (isWord_of_isSpace hc)]
    exact h

/-- A run of characters that are no white space in title case: its first word character in upper
case, what comes after that in lower case, and everything as it is if there is none. -/
def titleRun (run : Text) : Text :=
  match run.dropWhile (!isWord ·) with
  | [] => run
  | c :: rest => run.takeWhile (!isWord ·) ++ (upperChar c ++ lower rest)

/-- A block of a text in title case: white space as it is. -/
def titleBlock (block : Text) : Text :=
  if block.all isSpace then block else titleRun block

theorem titleRun_word (h : isWord c) (run : Text) : titleRun (c :: run) = capitalize (c :: run) := by
  simp [titleRun, h, capitalize]

theorem titleRun_other (h : isWord c = false) (run : Text) :
    titleRun (c :: run) = c :: titleRun run := by
  rw [titleRun, titleRun, List.dropWhile_cons_of_pos (by simp [h]),
    List.takeWhile_cons_of_pos (by simp [h])]
  split <;> rfl

/-- What comes before a word is not changed by title case. -/
theorem title_append (hrun : ∀ c ∈ run, isWord c = false) (after : Text) :
    title (run ++ after) = run ++ title after := by
  induction run with
  | nil => rfl
  | cons c run ih =>
    obtain ⟨hc, hrun⟩ := List.forall_mem_cons.mp hrun
    rw [List.cons_append, title_other hc, ih hrun, List.cons_append]

/-- **Title case changes a run by itself**, where a run holds no white space, and has white space
or the end behind it. -/
theorem title_run (hrun : ∀ c ∈ run, !isSpace c) (hafter : Stops (!isSpace ·) after) :
    title (run ++ after) = titleRun run ++ title after := by
  induction run with
  | nil => rfl
  | cons c run ih =>
    obtain ⟨-, hrest⟩ := List.forall_mem_cons.mp hrun
    rw [List.cons_append]
    by_cases hc : isWord c
    · rw [title_word hc, takeWhile_append_of_stops hrest hafter,
        dropWhile_append_of_stops hrest hafter, titleRun_word hc]
    · rw [Bool.not_eq_true] at hc
      rw [title_other hc, ih hrest, titleRun_other hc, List.cons_append]

theorem title_cons (c : Char) (text : Text) :
    title (c :: text) = titleBlock (c :: text.takeWhile (isSpace · == isSpace c))
      ++ title (text.dropWhile (isSpace · == isSpace c)) := by
  have hsplit : c :: text = (c :: text.takeWhile (isSpace · == isSpace c))
      ++ text.dropWhile (isSpace · == isSpace c) := by
    rw [List.cons_append, List.takeWhile_append_dropWhile]
  have hkind : ∀ d ∈ c :: text.takeWhile (isSpace · == isSpace c), isSpace d = isSpace c :=
    fun d hd => kind_of_mem_block hd
  rw [hsplit, titleBlock]
  cases hc : isSpace c with
  | true =>
    rw [hc] at hkind
    rw [if_pos (List.all_eq_true.mpr hkind), title_append fun d hd => isWord_of_isSpace (hkind d hd)]
  | false =>
    have hafter : Stops (!isSpace ·) (text.dropWhile (isSpace · == false)) := by
      simpa using stops_dropWhile (!isSpace ·) text
    have hrun : ∀ d ∈ c :: text.takeWhile (isSpace · == false), !isSpace d := fun d hd => by
      simp [hkind d (hc ▸ hd), hc]
    rw [if_neg (by simp [hc]), title_run hrun hafter]

/-- **Title case works block by block.** -/
theorem title_eq_blocks : (text : Text) → title text = (blocks isSpace text).flatMap titleBlock
  | [] => by rw [title_nil, blocks_nil, List.flatMap_nil]
  | c :: text => by
    rw [blocks_cons, List.flatMap_cons, title_cons, title_eq_blocks]
termination_by text => text.length
decreasing_by exact Nat.lt_succ_of_le (List.dropWhile_sublist _).length_le

/-! ## ASCII -/

/-- All characters are ASCII. -/
def IsAscii (text : Text) : Prop :=
  ∀ c ∈ text, c.toNat < 0x80

theorem isAscii_cons : IsAscii (c :: text) ↔ c.toNat < 0x80 ∧ IsAscii text :=
  List.forall_mem_cons

theorem IsAscii.head (h : IsAscii (c :: text)) : c.toNat < 0x80 :=
  (isAscii_cons.mp h).1

theorem IsAscii.tail (h : IsAscii (c :: text)) : IsAscii text :=
  (isAscii_cons.mp h).2

theorem IsAscii.sublist (h : IsAscii text) (hpart : part.Sublist text) : IsAscii part :=
  fun c hc => h c (hpart.subset hc)

theorem IsAscii.append (h : IsAscii text) (hpart : IsAscii part) : IsAscii (text ++ part) :=
  List.forall_mem_append.mpr ⟨h, hpart⟩

/-- What holds of the first 128 characters. -/
theorem forall_ascii {p : Char → Prop} (hall : ∀ code < 0x80, p (Char.ofNat code))
    (h : c.toNat < 0x80) : p c :=
  Char.ofNat_toNat c ▸ hall c.toNat h

theorem toNat_toUpper_lt (h : c.toNat < 0x80) : c.toUpper.toNat < 0x80 :=
  forall_ascii (p := fun c => c.toUpper.toNat < 0x80) (by decide +kernel) h

theorem toNat_toLower_lt (h : c.toNat < 0x80) : c.toLower.toNat < 0x80 :=
  forall_ascii (p := fun c => c.toLower.toNat < 0x80) (by decide +kernel) h

theorem isWord_toUpper (h : c.toNat < 0x80) : isWord c.toUpper = isWord c :=
  forall_ascii (p := fun c => isWord c.toUpper = isWord c) (by decide +kernel) h

theorem isSpace_toLower (h : c.toNat < 0x80) : isSpace c.toLower = isSpace c :=
  forall_ascii (p := fun c => isSpace c.toLower = isSpace c) (by decide +kernel) h

theorem IsAscii.map_toLower (h : IsAscii text) : IsAscii (text.map Char.toLower) :=
  List.forall_mem_map.mpr fun c hc => toNat_toLower_lt (h c hc)

theorem map_toLower_map_toLower (text : Text) :
    (text.map Char.toLower).map Char.toLower = text.map Char.toLower := by
  rw [List.map_map]
  exact List.map_congr_left fun c _ => Char.toLower_toLower_eq_toLower c

/-- Without a capital sigma, lower case goes character by character. -/
theorem lowerFrom_of_isAscii (h : IsAscii text) (afterCased : Bool) :
    lowerFrom afterCased text = text.map Char.toLower := by
  induction text generalizing afterCased with
  | nil => rfl
  | cons c text ih =>
    have hsigma : c ≠ 'Σ' := by
      rintro rfl
      exact absurd h.head (by decide)
    rw [lowerFrom, if_neg hsigma, lowerChar, if_pos h.head, ih h.tail]
    rfl

theorem lower_of_isAscii (h : IsAscii text) : lower text = text.map Char.toLower :=
  lowerFrom_of_isAscii h false

theorem capitalize_of_isAscii (h : IsAscii (c :: text)) :
    capitalize (c :: text) = c.toUpper :: text.map Char.toLower := by
  rw [capitalize, upperChar, if_pos h.head, lower_of_isAscii h.tail, List.singleton_append]

theorem title_word_of_isAscii (h : IsAscii (c :: text)) (hc : isWord c) :
    title (c :: text) = c.toUpper :: ((text.takeWhile (!isSpace ·)).map Char.toLower
      ++ title (text.dropWhile (!isSpace ·))) := by
  rw [title_word hc, capitalize_of_isAscii (h.sublist ((List.takeWhile_sublist _).cons_cons c)),
    List.cons_append]

theorem IsAscii.title (h : IsAscii text) : IsAscii (title text) := by
  induction text using title.induct with
  | case1 => rwa [title_nil]
  | case2 c text hc ih =>
    have hword := (h.tail.sublist (List.takeWhile_sublist (!isSpace ·))).map_toLower
    have hrest := ih (h.tail.sublist (List.dropWhile_sublist _))
    rw [title_word_of_isAscii h hc]
    exact isAscii_cons.mpr ⟨toNat_toUpper_lt h.head, hword.append hrest⟩
  | case3 c text hc ih =>
    rw [title_other (Bool.eq_false_iff.mpr hc)]
    exact isAscii_cons.mpr ⟨h.head, ih h.tail⟩

/-- Title case changes nothing but case. -/
theorem map_toLower_title (h : IsAscii text) :
    (title text).map Char.toLower = text.map Char.toLower := by
  induction text using title.induct with
  | case1 => rw [title_nil]
  | case2 c text hc ih =>
    rw [title_word_of_isAscii h hc, List.map_cons, List.map_append,
      Char.toLower_toUpper_eq_toLower, map_toLower_map_toLower,
      ih (h.tail.sublist (List.dropWhile_sublist _)), ← List.map_append,
      List.takeWhile_append_dropWhile, List.map_cons]
  | case3 c text hc ih =>
    rw [title_other (Bool.eq_false_iff.mpr hc), List.map_cons, ih h.tail, List.map_cons]

theorem lower_title (h : IsAscii text) : lower (title text) = lower text := by
  rw [lower_of_isAscii h.title, lower_of_isAscii h, map_toLower_title h]

/-- **Title case is done with once**, in ASCII: a word still starts where it started. -/
theorem title_title (h : IsAscii text) : title (title text) = title text := by
  induction text using title.induct with
  | case1 => rw [title_nil, title_nil]
  | case2 c text hc ih =>
    have hrun : ∀ d ∈ (text.takeWhile (!isSpace ·)).map Char.toLower, !isSpace d := by
      intro d hd
      obtain ⟨e, he, rfl⟩ := List.mem_map.mp hd
      rw [isSpace_toLower (h.tail e ((List.takeWhile_sublist _).subset he))]
      simpa using List.mem_takeWhile_imp he
    have hafter : Stops (!isSpace ·) (title (text.dropWhile (!isSpace ·))) :=
      title_stops (stops_dropWhile _ text)
    have hword : isWord c.toUpper := (isWord_toUpper h.head).trans hc
    have hagain := h.title
    rw [title_word_of_isAscii h hc] at hagain ⊢
    rw [title_word_of_isAscii hagain hword, takeWhile_append_of_stops hrun hafter,
      dropWhile_append_of_stops hrun hafter, map_toLower_map_toLower,
      ih (h.tail.sublist (List.dropWhile_sublist _)), Char.toUpper_toUpper_eq_toUpper]
  | case3 c text hc ih =>
    rw [title_other (Bool.eq_false_iff.mpr hc), title_other (Bool.eq_false_iff.mpr hc), ih h.tail]

end Rowwise.Text
