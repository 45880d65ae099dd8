import CompilerTest.Diagnostics.Decode
import CompilerTest.Proofs.FileTree.Routes

/-!
# What decoding depends on

Decoding looks at the files only to find out which names stand for the tested file, and following a
name goes through directories and links. So decoding depends on these alone
(`decode_of_sameRoutes`).
-/

namespace CompilerTest

namespace Diagnostics

section Routes

variable {s s' : Subject}

/-- The names that stand for the tested file are all that decoding finds out about the files. -/
theorem primaryLine_congr (h : s'.names = s.names) (spans : Json) :
    primaryLine s' spans = primaryLine s spans := by
  have hspan (span : Json) : spanLine? s' span = spanLine? s span := by
    rw [spanLine?, spanLine?, h]
  have hfirst (spans : List Json) : firstLine? s' spans = firstLine? s spans := by
    induction spans with
    | nil => rfl
    | cons span spans ih => rw [firstLine?, firstLine?, hspan, ih]
  unfold primaryLine
  simp only [hfirst]

mutual

theorem insertTree_congr (h : s'.names = s.names) (parent : Option Int) :
    ∀ (payload : Json) (d : Decoding),
      insertTree s' parent payload d = insertTree s parent payload d
  | .object ms, d => by
    rw [insertTree, insertTree, primaryLine_congr h]
    congr 1
    funext own
    exact insertMembers_congr h _ ms _
  | .null, d | .bool _, d | .number _, d | .text _, d | .broken _, d | .array _, d => by
    simp only [insertTree]

theorem insertMembers_congr (h : s'.names = s.names) (line : Option Int) :
    ∀ (ms : List (String × Json)) (d : Decoding),
      insertMembers s' line ms d = insertMembers s line ms d
  | [], d => by simp only [insertMembers]
  | (name, value) :: rest, d => by
    rw [insertMembers, insertMembers, insertChildren_congr h line value d,
      insertMembers_congr h line rest d]

theorem insertChildren_congr (h : s'.names = s.names) (line : Option Int) :
    ∀ (children : Json) (d : Decoding),
      insertChildren s' line children d = insertChildren s line children d
  | .array items, d => by
    rw [insertChildren, insertChildren, insertItems_congr h line items d]
  | .null, d | .bool _, d | .number _, d | .text _, d | .broken _, d | .object _, d => by
    simp only [insertChildren]

theorem insertItems_congr (h : s'.names = s.names) (line : Option Int) :
    ∀ (items : List Json) (d : Decoding), insertItems s' line items d = insertItems s line items d
  | [], d => by simp only [insertItems]
  | payload :: rest, d => by
    rw [insertItems, insertItems, insertTree_congr h line payload d]
    congr 1
    funext d
    exact insertItems_congr h line rest d

end

theorem addLine_congr (h : s'.names = s.names) : addLine s' = addLine s := by
  funext d line
  have hadd (payload : Json) :
      addDiagnostic s' line payload d = addDiagnostic s line payload d := by
    simp only [addDiagnostic, insertTree_congr h]
  simp only [addLine, hadd]

/-- **Decoding depends on directories and links alone.** -/
theorem decode_of_sameRoutes {t t' : FileTree} (h : FileTree.SameRoutes t t') (file : Path)
    (output : Bytes) : decode ⟨t', file⟩ output = decode ⟨t, file⟩ output := by
  have hnames : Subject.names ⟨t', file⟩ = Subject.names ⟨t, file⟩ := by
    funext name
    have htested (candidate : Path) :
        Subject.isTested ⟨t', file⟩ candidate = Subject.isTested ⟨t, file⟩ candidate := by
      simp only [Subject.isTested, h.realPath_eq]
    simp only [Subject.names, htested]
  rw [decode, decode, addLine_congr hnames]

end Routes

end Diagnostics

end CompilerTest
