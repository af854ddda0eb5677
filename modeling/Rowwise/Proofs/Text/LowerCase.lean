import Rowwise.Text.Case

/-!
# Text — Lower case

Lower-casing twice is lower-casing once. The mapping of a text depends on neighbours (a capital
sigma at the end of a word has a form of its own) and may turn one character into two, so the two
texts cannot be compared place by place. Instead every character of a lower-cased text is
`Settled`: it is mapped to itself wherever it stands.

What has to be known of the tables is that no run covers what a run maps to. Two runs are held
against each other by their ends and by parity (`imageApart`), never code point by code point.
-/

namespace Rowwise.Text

/-! ## Runs of code points -/

namespace CaseRun

/-- Whether no code point that `run` maps to is covered by `other`: the images end before it
begins, or begin after it ends, or fall between its steps. -/
def imageApart (run other : CaseRun) : Bool :=
  Nat.blt (run.apply run.last) other.first || Nat.blt other.last (run.apply run.first) ||
    (Nat.beq run.step 2 || Nat.beq run.first run.last) && Nat.beq other.step 2 &&
      run.apply run.first % 2 != other.first % 2

/-- The run keeps to code points of characters, outside ASCII but for the Kelvin sign. -/
def KeepsToChars (run : CaseRun) : Prop :=
  0 ≤ run.first + run.offset ∧
    (run.apply run.last < 0xD800 ∨ 0xDFFF < run.apply run.first ∧ run.apply run.last < 0x110000) ∧
    (0x80 ≤ run.apply run.first ∨ run.first = run.last ∧ run.apply run.first = 'k'.toNat)
deriving Decidable

variable {run other : CaseRun} {code : Nat}

theorem covers_iff : run.covers code ↔
    run.first ≤ code ∧ code ≤ run.last ∧ (code - run.first) % run.step = 0 := by
  simp [covers, and_assoc]

theorem imageApart_iff : run.imageApart other ↔
    run.apply run.last < other.first ∨ other.last < run.apply run.first ∨
      (run.step = 2 ∨ run.first = run.last) ∧ other.step = 2 ∧
        run.apply run.first % 2 ≠ other.first % 2 := by
  simp [imageApart, or_assoc, and_assoc]

theorem covers_apply_of_imageApart (hpos : 0 ≤ run.first + run.offset) (hcovers : run.covers code)
    (happart : run.imageApart other) : other.covers (run.apply code) = false := by
  obtain ⟨hfirst, hlast, hstep⟩ := covers_iff.mp hcovers
  rw [Bool.eq_false_iff]
  intro himage
  obtain ⟨hfirst', hlast', hstep'⟩ := covers_iff.mp himage
  rw [imageApart_iff] at happart
  unfold apply at hfirst' hlast' hstep' happart
  rcases happart with hbefore | hafter | ⟨htwo | hsingle, htwo', hparity⟩
  · omega
  · omega
  · rw [htwo] at hstep
    rw [htwo'] at hstep'
    omega
  · rw [htwo'] at hstep'
    omega

end CaseRun

theorem lowerRuns_imageApart :
    (lowerRuns.all fun run => lowerRuns.all run.imageApart) = true := by
  decide +kernel

theorem lowerRuns_keepsToChars : ∀ run ∈ lowerRuns, run.KeepsToChars := by
  decide +kernel

/-- An expansion is a run of one code point, as far as covering goes. -/
theorem lowerRuns_imageApart_expansions : ∀ run ∈ lowerRuns, ∀ expansion ∈ lowerExpansions,
    run.imageApart ⟨expansion.1, expansion.1, 1, 0⟩ := by
  decide +kernel

/-! ## Settled characters -/

/-- A character that lower-casing leaves as it is. -/
def Settled (c : Char) : Prop :=
  lowerChar c = [c]
deriving Decidable

theorem Settled.ne_sigma {c : Char} (h : Settled c) : c ≠ 'Σ' := by
  rintro rfl
  exact absurd h (by decide +kernel)

/-- Beyond ASCII, a character is settled if no table mentions it. -/
theorem settled_of_unmapped {c : Char} (hwide : 0x80 ≤ c.toNat)
    (hruns : ∀ run ∈ lowerRuns, run.covers c.toNat = false)
    (hexpansions : lowerExpansions.lookup c.toNat = none) : Settled c := by
  have hfind : lowerRuns.find? (·.covers c.toNat) = none := by
    simpa [List.find?_eq_none] using hruns
  rw [Settled, lowerChar, if_neg (by omega), mapCode, hfind, hexpansions]
  simp [Char.ofNat_toNat]

theorem settled_toLower {c : Char} (h : c.toNat < 0x80) : Settled c.toLower := by
  have hall : ∀ code < 0x80, Settled (Char.ofNat code).toLower := by
    decide +kernel
  simpa [Char.ofNat_toNat] using hall c.toNat h

/-- What a run maps to is settled. -/
theorem settled_apply {run : CaseRun} {code : Nat} (hrun : run ∈ lowerRuns)
    (hcovers : run.covers code) : Settled (Char.ofNat (run.apply code)) := by
  obtain ⟨hpos, hvalid, hascii⟩ := lowerRuns_keepsToChars run hrun
  obtain ⟨hfirst, hlast, -⟩ := CaseRun.covers_iff.mp hcovers
  have hbounds : run.apply run.first ≤ run.apply code ∧ run.apply code ≤ run.apply run.last := by
    unfold CaseRun.apply
    omega
  rcases hascii with hwide | ⟨hsingle, hkelvin⟩
  · have htoNat : (Char.ofNat (run.apply code)).toNat = run.apply code := by
      have hchar : (run.apply code).isValidChar := by
        unfold Nat.isValidChar
        omega
      rw [Char.ofNat, dif_pos hchar]
      rfl
    refine settled_of_unmapped ?_ ?_ ?_
    · omega
    · intro other hother
      rw [htoNat]
      exact CaseRun.covers_apply_of_imageApart hpos hcovers
        (List.all_eq_true.mp (List.all_eq_true.mp lowerRuns_imageApart run hrun) other hother)
    · rw [htoNat, List.lookup_eq_none_iff]
      intro expansion hexpansion
      have hmiss := CaseRun.covers_apply_of_imageApart hpos hcovers
        (lowerRuns_imageApart_expansions run hrun expansion hexpansion)
      rw [bne_iff_ne]
      rintro hsame
      rw [hsame, CaseRun.covers] at hmiss
      simp at hmiss
  · have hcode : code = run.first := by omega
    rw [hcode, hkelvin]
    exact settled_toLower (c := 'K') (by decide)

/-- **What one character is mapped to** is settled, whether a run, an expansion or nothing maps
it. -/
theorem settled_of_mem_lowerChar {c d : Char} (h : d ∈ lowerChar c) : Settled d := by
  have hexpanded : ∀ expansion ∈ lowerExpansions, ∀ code ∈ expansion.2,
      Settled (Char.ofNat code) := by
    decide +kernel
  by_cases hascii : c.toNat < 0x80
  · rw [lowerChar, if_pos hascii, List.mem_singleton] at h
    exact h ▸ settled_toLower hascii
  · rw [lowerChar, if_neg hascii, mapCode] at h
    cases hfind : lowerRuns.find? (·.covers c.toNat) with
    | some run =>
      rw [hfind] at h
      obtain rfl : d = Char.ofNat (run.apply c.toNat) := by simpa using h
      have hcovers : run.covers c.toNat := by simpa using List.find?_some hfind
      exact settled_apply (List.mem_of_find?_eq_some hfind) hcovers
    | none =>
      rw [hfind] at h
      cases hlookup : lowerExpansions.lookup c.toNat with
      | some codes =>
        rw [hlookup] at h
        obtain ⟨before, after, htable, -⟩ := List.lookup_eq_some_iff.mp hlookup
        obtain ⟨code, hcode, rfl⟩ := List.mem_map.mp h
        exact hexpanded (c.toNat, codes) (by simp [htable]) code hcode
      | none =>
        rw [hlookup] at h
        obtain rfl : d = c := by simpa [Char.ofNat_toNat] using h
        exact settled_of_unmapped (by omega) (by simpa [List.find?_eq_none] using hfind) hlookup

/-! ## Texts -/

theorem settled_of_mem_lowerFrom {text : Text} {afterCased : Bool} {d : Char}
    (h : d ∈ lowerFrom afterCased text) : Settled d := by
  induction text generalizing afterCased with
  | nil => cases h
  | cons c rest ih =>
    rw [lowerFrom] at h
    rcases List.mem_append.mp h with hhead | hrest
    · -- both forms of a sigma are settled, and so is what any other character is mapped to
      split at hhead
      · have hsigma : d = 'ς' ∨ d = 'σ' := by
          split at hhead
          · exact .inl (List.mem_singleton.mp hhead)
          · exact .inr (List.mem_singleton.mp hhead)
        rcases hsigma with rfl | rfl <;> decide +kernel
      · exact settled_of_mem_lowerChar hhead
    · exact ih hrest

theorem lowerFrom_of_settled {text : Text} (h : ∀ c ∈ text, Settled c) (afterCased : Bool) :
    lowerFrom afterCased text = text := by
  induction text generalizing afterCased with
  | nil => rfl
  | cons c rest ih =>
    have hc : Settled c := h c List.mem_cons_self
    rw [lowerFrom, if_neg hc.ne_sigma, hc, ih fun d hd => h d (List.mem_cons_of_mem c hd)]
    rfl

/-- **Lower-casing is done with once**, for every text. -/
theorem lower_lower (text : Text) : lower (lower text) = lower text :=
  lowerFrom_of_settled (fun _ h => settled_of_mem_lowerFrom h) false

end Rowwise.Text
