import Rowwise.Proofs.Regex.Footprint
import Rowwise.Proofs.Regex.Runs

/-!
# Regex — Words

The expression `\w\S*`, from its text to its matches. It keeps to the limit on sizes, so it is
accepted as it is written (`ofText?_wordText`), and it finds the runs of characters that are no white
space, each from its first word character on (`findAll_words`).
-/

namespace Rowwise.Regex

open Rowwise.Regex.CharSet (merge ofRanges_of_perm)
open Rowwise.Regex.Footprint (Small encodings_eq)

/-- A word character, and all characters up to the next white space. -/
def wordText : Text :=
  ['\\', 'w', '\\', 'S', '*']

/-- The class `\w`. -/
def wordSet : CharSet :=
  PerlClass.word.set true

/-- The class `\S`. -/
def notSpaceSet : CharSet :=
  (PerlClass.space.set true).compl

/-- The expression ready to match. -/
def words : Regex :=
  ⟨runMachine wordSet notSpaceSet, 0, []⟩

/-! ## Size -/

theorem wordSet_eq : wordSet
    = ⟨merge ([(0x30, 0x39), (0x41, 0x5A), (0x5F, 0x5F), (0x61, 0x7A)] ++ Text.wordRanges)⟩ := by
  refine ofRanges_of_perm (.refl _) (List.isChain_iff_pairwise.mp ?_)
  decide +kernel

theorem small_wordSet : Small wordSet := by
  rw [wordSet_eq]
  constructor
  · decide +kernel
  · rw [encodings_eq]
    · decide +kernel
    · decide +kernel

theorem notSpaceSet_eq : notSpaceSet = CharSet.compl ⟨[(0x9, 0xD), (0x20, 0x20), (0x85, 0x85),
    (0xA0, 0xA0), (0x1680, 0x1680), (0x2000, 0x200A), (0x2028, 0x2029), (0x202F, 0x202F),
    (0x205F, 0x205F), (0x3000, 0x3000)]⟩ := by
  refine congrArg CharSet.compl (ofRanges_of_perm (.refl _) ?_)
  decide

theorem small_notSpaceSet : Small notSpaceSet := by
  rw [notSpaceSet_eq]
  constructor
  · decide
  · rw [encodings_eq]
    · decide +kernel
    · decide

theorem fits_runNode {first rest : CharSet} (hfirst : Small first) (hrest : Small rest) :
    Footprint.fits (runNode first rest) := by
  have hnode (backward : Bool) :
      Footprint.node backward (runNode first rest) ≤ Footprint.limit := by
    have hfirstSize := hfirst.chars_le backward
    have hrestSize := hrest.chars_le backward
    simp [runNode, Footprint.node, Footprint.nodes, Node.minLength, Footprint.state,
      Footprint.branch, Footprint.limit]
    omega
  simp [Footprint.fits, hnode]

/-- **The expression `\w\S*` is accepted**, and the machine for it is that of `words`. -/
theorem ofText?_wordText : ofText? wordText = some words := by
  have hparse : parse? wordText
      = some ⟨.concat [.perl .word false, .repetition 0 none true (.perl .space true)], 0, []⟩ := by
    rfl
  have hmeaning : (Expr.concat [.perl .word false,
      .repetition 0 none true (.perl .space true)]).meaning? .initial
      = some (runNode wordSet notSpaceSet, .initial) := by
    rfl
  rw [ofText?, hparse]
  simp [hmeaning, fits_runNode small_wordSet small_notSpaceSet, words, ofNode_runNode]

/-! ## Matches -/

/-- **The matches of `\w\S*`** are the runs of a word character and of all up to white space. -/
theorem findAll_words (text : Text) :
    words.findAll text = runs Text.isWord (!Text.isSpace ·) text := by
  have hfirst : wordSet.contains = Text.isWord := funext fun _ => contains_word
  have hrest : notSpaceSet.contains = (!Text.isSpace ·) := funext fun _ => contains_notSpace
  rw [words, findAll_runMachine, hfirst, hrest]

end Rowwise.Regex
