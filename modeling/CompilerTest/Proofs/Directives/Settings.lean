import CompilerTest.Directives.Basic
import Mathlib.Data.List.Forall2

/-!
# Settings with one value

A setting with one value is resolved from two lists: its values in the sets that name the revision,
and its values in the sets for all revisions. Two values of the first list conflict, a single one is
taken, and if there is none, the last value of the second list is. So it does not matter how the two
kinds of sets are interleaved, what the sets for other revisions say, or how often a set names a
revision (`findOne_resolved`).
-/

namespace CompilerTest

namespace DirectiveSet

variable {α : Type}

/-- Whether a set is for some revisions only. -/
def isScoped (s : DirectiveSet) : Bool := !s.revisions.isEmpty

/-- The value of a setting in a set for some revisions, if this one is among them. -/
def scopedValue? (revision : String) (setting : DirectiveSet → Option (Spanned α))
    (s : DirectiveSet) : Option (Spanned α) :=
  if s.isScoped ∧ revision ∈ s.revisions then setting s else none

/-- The value of a setting in a set, if the set is for all revisions. -/
def unscopedValue? (setting : DirectiveSet → Option (Spanned α)) (s : DirectiveSet) :
    Option (Spanned α) :=
  if s.isScoped then none else setting s

/-- Whether two sets name the same revisions, however often, and say the same about a setting. -/
structure SameNames (setting : DirectiveSet → Option (Spanned α)) (s s' : DirectiveSet) : Prop where
  mem_iff (revision : String) : revision ∈ s'.revisions ↔ revision ∈ s.revisions
  setting_eq : setting s' = setting s

end DirectiveSet

namespace Directives

open DirectiveSet

variable {α : Type}

/-- How a setting with one value is resolved, and what that does not depend on. The values in the
sets that name the revision count first, then those in the sets for all revisions. -/
structure Resolved (d : Directives) (revision kind : String)
    (setting : DirectiveSet → Option (Spanned α)) : Prop where
  /-- There is a conflict iff two sets that name the revision have a value. The failure lists the
  lines of all these values but the first, in order. -/
  conflict_iff (f : Failure) : d.findOne revision kind setting = .error f ↔
    2 ≤ (d.sets.filterMap (scopedValue? revision setting)).length ∧
      f = { command := { program := s!"<finding flags for revision \x60{revision}\x60>" }
            errors := [.multipleValues kind
              ((d.sets.filterMap (scopedValue? revision setting)).tail.map Spanned.line)] }
  /-- The only value in the sets that name the revision is taken. -/
  only (value : Spanned α) : d.sets.filterMap (scopedValue? revision setting) = [value] →
    d.findOne revision kind setting = .ok (some value)
  /-- Without any, the last value in the sets for all revisions is taken, if there is one. -/
  default : d.sets.filterMap (scopedValue? revision setting) = [] →
    d.findOne revision kind setting = .ok (d.sets.filterMap (unscopedValue? setting)).getLast?
  /-- A value for the revision makes the sets for all revisions irrelevant. -/
  overrides (d' : Directives) : d.sets.filterMap (scopedValue? revision setting) ≠ [] →
    d'.sets.filter (·.isScoped) = d.sets.filter (·.isScoped) →
      d'.findOne revision kind setting = d.findOne revision kind setting
  /-- It does not matter how the two kinds of sets are interleaved. -/
  interleaved (d' : Directives) : d'.sets.filter (·.isScoped) = d.sets.filter (·.isScoped) →
    d'.sets.filter (!·.isScoped) = d.sets.filter (!·.isScoped) →
      d'.findOne revision kind setting = d.findOne revision kind setting
  /-- Sets for other revisions do not matter. -/
  others (d' : Directives) : d'.forRevision revision = d.forRevision revision →
    d'.findOne revision kind setting = d.findOne revision kind setting
  /-- It does not matter how often a set names a revision. -/
  repeated (d' : Directives) : List.Forall₂ (SameNames setting) d.sets d'.sets →
    d'.findOne revision kind setting = d.findOne revision kind setting

section Values

variable {d d' : Directives} {revision kind : String} {setting : DirectiveSet → Option (Spanned α)}

theorem isScoped_of_mem {s : DirectiveSet} (h : revision ∈ s.revisions) : s.isScoped = true := by
  cases hnames : s.revisions with
  | nil => simp [hnames] at h
  | cons first names => simp [isScoped, hnames]

theorem specific_eq (d : Directives) (revision : String)
    (setting : DirectiveSet → Option (Spanned α)) :
    d.specific revision setting = d.sets.filterMap (scopedValue? revision setting) := by
  rw [specific, List.filterMap_filter]
  congr 1
  funext s
  by_cases h : revision ∈ s.revisions
  · simp [mentions, scopedValue?, h, isScoped_of_mem h]
  · simp [mentions, scopedValue?, h]

theorem general_eq (d : Directives) (setting : DirectiveSet → Option (Spanned α)) :
    d.general setting = d.sets.filterMap (unscopedValue? setting) := by
  rw [general, List.filterMap_filter]
  congr 1
  funext s
  cases h : s.revisions.isEmpty <;> simp [unscopedValue?, isScoped, h]

/-- A setting depends on its values alone, and on those for all revisions only if there is no
other. -/
theorem findOne_congr
    (hscoped : d'.sets.filterMap (scopedValue? revision setting) =
      d.sets.filterMap (scopedValue? revision setting))
    (hunscoped : d.sets.filterMap (scopedValue? revision setting) = [] →
      d'.sets.filterMap (unscopedValue? setting) = d.sets.filterMap (unscopedValue? setting)) :
    d'.findOne revision kind setting = d.findOne revision kind setting := by
  rw [findOne, findOne, specific_eq, specific_eq, general_eq, general_eq, hscoped]
  rcases h : d.sets.filterMap (scopedValue? revision setting) with _ | ⟨value, _ | ⟨next, others⟩⟩
  · rw [hunscoped h]
  · rfl
  · rfl

/-- Only sets for some revisions have a value for one of them. -/
theorem filterMap_scopedValue? (sets : List DirectiveSet) :
    (sets.filter (·.isScoped)).filterMap (scopedValue? revision setting) =
      sets.filterMap (scopedValue? revision setting) := by
  rw [List.filterMap_filter]
  congr 1
  funext s
  cases h : s.isScoped <;> simp [scopedValue?, h]

theorem filterMap_unscopedValue? (sets : List DirectiveSet) :
    (sets.filter (!·.isScoped)).filterMap (unscopedValue? setting) =
      sets.filterMap (unscopedValue? setting) := by
  rw [List.filterMap_filter]
  congr 1
  funext s
  cases h : s.isScoped <;> simp [unscopedValue?, h]

/-- A set that does not apply to the revision has no value that counts for it. -/
theorem values_eq_none {s : DirectiveSet} (h : s.appliesTo revision = false) :
    scopedValue? revision setting s = none ∧ unscopedValue? setting s = none := by
  obtain ⟨hscoped, hnames⟩ := Bool.or_eq_false_iff.1 h
  have hnames : revision ∉ s.revisions := by simpa using hnames
  exact ⟨by simp [scopedValue?, hnames], by simp [unscopedValue?, isScoped, hscoped]⟩

/-- So every value that counts for the revision is in a set that applies to it. -/
theorem filterMap_forRevision (d : Directives) (revision : String)
    (setting : DirectiveSet → Option (Spanned α)) :
    (d.forRevision revision).filterMap (scopedValue? revision setting) =
        d.sets.filterMap (scopedValue? revision setting) ∧
      (d.forRevision revision).filterMap (unscopedValue? setting) =
        d.sets.filterMap (unscopedValue? setting) := by
  rw [forRevision, List.filterMap_filter, List.filterMap_filter]
  refine ⟨?_, ?_⟩
  · congr 1
    funext s
    cases h : s.appliesTo revision with
    | false => rw [(values_eq_none h).1]; rfl
    | true => rfl
  · congr 1
    funext s
    cases h : s.appliesTo revision with
    | false => rw [(values_eq_none h).2]; rfl
    | true => rfl

theorem isScoped_eq_of_sameNames {s s' : DirectiveSet} (h : SameNames setting s s') :
    s'.isScoped = s.isScoped := by
  have hempty : s'.revisions = [] ↔ s.revisions = [] := by
    simp only [List.eq_nil_iff_forall_not_mem, h.mem_iff]
  rw [isScoped, isScoped, Bool.eq_iff_iff]
  simp [hempty]

/-- Sets that name the same revisions have the same values for each. -/
theorem filterMap_of_sameNames {sets sets' : List DirectiveSet}
    (h : List.Forall₂ (SameNames setting) sets sets') :
    sets'.filterMap (scopedValue? revision setting) =
        sets.filterMap (scopedValue? revision setting) ∧
      sets'.filterMap (unscopedValue? setting) = sets.filterMap (unscopedValue? setting) := by
  induction h with
  | nil => exact ⟨rfl, rfl⟩
  | @cons s s' sets sets' hs _ ih =>
    have hscoped : scopedValue? revision setting s' = scopedValue? revision setting s := by
      simp only [scopedValue?, isScoped_eq_of_sameNames hs, hs.mem_iff, hs.setting_eq]
    have hunscoped : unscopedValue? setting s' = unscopedValue? setting s := by
      simp only [unscopedValue?, isScoped_eq_of_sameNames hs, hs.setting_eq]
    simp only [List.filterMap_cons, hscoped, hunscoped, ih.1, ih.2, and_self]

end Values

/-- **Settings with one value.** A setting is resolved by its values in the sets that name the
revision and, if there is none, by the last value in the sets for all revisions. -/
theorem findOne_resolved (d : Directives) (revision kind : String)
    (setting : DirectiveSet → Option (Spanned α)) : d.Resolved revision kind setting where
  conflict_iff f := by
    rw [findOne, specific_eq]
    rcases d.sets.filterMap (scopedValue? revision setting) with _ | ⟨first, _ | ⟨second, others⟩⟩
    · simp
    · simp
    · have hlength : 2 ≤ (first :: second :: others).length := by simp
      simp only [hlength, true_and]
      exact ⟨fun h => (Except.error.inj h).symm, fun h => congrArg Except.error h.symm⟩
  only value h := by rw [findOne, specific_eq, h]
  default h := by rw [findOne, specific_eq, h, general_eq]
  overrides d' hvalue h := by
    refine findOne_congr ?_ fun hnone => absurd hnone hvalue
    rw [← filterMap_scopedValue?, h, filterMap_scopedValue?]
  interleaved d' hscoped hunscoped := by
    refine findOne_congr ?_ fun _ => ?_
    · rw [← filterMap_scopedValue?, hscoped, filterMap_scopedValue?]
    · rw [← filterMap_unscopedValue?, hunscoped, filterMap_unscopedValue?]
  others d' h := by
    obtain ⟨hscoped, hunscoped⟩ := filterMap_forRevision d revision setting
    obtain ⟨hscoped', hunscoped'⟩ := filterMap_forRevision d' revision setting
    refine findOne_congr ?_ fun _ => ?_
    · rw [← hscoped', h, hscoped]
    · rw [← hunscoped', h, hunscoped]
  repeated d' h := by
    obtain ⟨hscoped, hunscoped⟩ := filterMap_of_sameNames h
    exact findOne_congr hscoped fun _ => hunscoped

/-- A revision that a set names twice is no conflict, and its value overrides that for all. -/
example : findOne ⟨["a"],
    [{ revisions := ["a", "a"], codePrefix := some ⟨"E", {}⟩ }, { codePrefix := some ⟨"W", {}⟩ }]⟩
    "a" "prefix" DirectiveSet.codePrefix = .ok (some ⟨"E", {}⟩) := rfl

end Directives

end CompilerTest
