import RequestParams.Proofs.Text.Lowercase
import RequestParams.Rule

/-!
# Files of an allowed extension

The lower case of a filename ends in that of its extension, but for an extension that opens with a
capital sigma: behind the stem, across the dot, the sigma may be the end of a word, and by itself it
is not.
-/

namespace RequestParams

/-- An extension without the dots that it may be given with. -/
def bareExtension (extension : String) : String :=
  String.ofList (extension.toList.dropWhile (· == '.'))

theorem suffixOf_eq (extension : String) :
    suffixOf extension = "." ++ Text.lower (bareExtension extension) := rfl

/-- A word of the stem goes on across the dot and ends with a sigma at the beginning of the
extension. -/
def SigmaEndsWord (stem extension : String) : Prop :=
  Text.reachesCased stem.toList.reverse = true ∧ Text.OpensWithFinalSigma extension.toList

theorem isSuffix_append_iff {α : Type} {s u : List α} (t : List α)
    (length_eq : s.length = u.length) : s <:+ t ++ u ↔ s = u := by
  constructor
  · intro suffix
    have suffix_u : s <:+ u :=
      List.suffix_of_suffix_length_le suffix (List.suffix_append t u) (Nat.le_of_eq length_eq)
    exact suffix_u.eq_of_length length_eq
  · rintro rfl
    exact List.suffix_append t s

theorem lowerFrom_dot (before s : List Char) :
    Text.lowerFrom before ('.' :: s) = '.' :: Text.lowerFrom ('.' :: before) s := by
  rw [Text.lowerFrom, if_neg (by decide), Text.lowerChar_dot, List.singleton_append]

theorem reachesCased_dot (s : List Char) : Text.reachesCased ('.' :: s) = Text.reachesCased s := by
  have dot_ignorable : Text.caseIgnorable.contains '.' = true := by decide +kernel
  rw [Text.reachesCased_cons, if_pos dot_ignorable]

/-- A filename ends in the suffix of its own extension unless a sigma joins stem and extension. -/
theorem hasSuffix_own_iff (stem extension : String) :
    hasSuffix (stem ++ "." ++ extension) ("." ++ Text.lower extension) = true ↔
      ¬SigmaEndsWord stem extension := by
  obtain ⟨head, lower_eq⟩ :=
    Text.exists_lowerFrom_append [] stem.toList ('.' :: extension.toList)
  have name_eq : (Text.lower (stem ++ "." ++ extension)).toList =
      head ++ '.' :: Text.lowerFrom ('.' :: stem.toList.reverse) extension.toList := by
    rw [Text.lower, String.toList_ofList, ← lowerFrom_dot, ← List.append_nil stem.toList.reverse,
      ← lower_eq]
    simp
  have suffix_eq : ("." ++ Text.lower extension).toList =
      '.' :: Text.lowerFrom [] extension.toList := by
    simp [Text.lower]
  have length_eq := Text.length_lowerFrom [] ('.' :: stem.toList.reverse) extension.toList
  rw [hasSuffix, List.isSuffixOf_iff_suffix, name_eq, suffix_eq,
    isSuffix_append_iff head (by simpa using length_eq), List.cons_inj_right, eq_comm,
    Text.lowerFrom_eq_lowerFrom_nil_iff, reachesCased_dot, SigmaEndsWord]

namespace Rule

theorem mkFileExtension_eq_ok_iff (extensions : List String) (rule : Rule) :
    mkFileExtension extensions = .ok rule ↔
      ∃ nonempty, (extensions.map suffixOf).contains "." = false ∧
        rule = fileExtension (extensions.map suffixOf) nonempty := by
  simp only [mkFileExtension]
  split_ifs with nonempty blank
  · refine iff_of_false nofun ?_
    rintro ⟨-, not_blank, -⟩
    exact Bool.false_ne_true (not_blank.symm.trans blank)
  · simp only [Except.ok.injEq, eq_comm (a := rule)]
    exact ⟨fun built => ⟨nonempty, eq_false_of_ne_true blank, built⟩,
      fun ⟨_, _, built⟩ => built⟩
  · exact iff_of_false nofun fun ⟨nonempty', _⟩ => nonempty nonempty'

theorem accepts_fileExtension (suffixes : List String) (nonempty : suffixes ≠ [])
    (files : List Attachment) :
    (fileExtension suffixes nonempty).accepts (.files files) = true ↔
      ∀ file ∈ files, ∃ suffix ∈ suffixes, hasSuffix file.filename suffix = true := by
  simp [accepts, hasAnySuffix, Value.files?]

/-- Files that are each named with a stem and an allowed extension are accepted, except where a
capital sigma at the beginning of the extension ends a word of the stem; by that extension alone
such a file is refused. -/
theorem fileExtension_accepts_own {extensions : List String} {rule : Rule}
    (built : mkFileExtension extensions = .ok rule) :
    (∀ files : List Attachment,
      (∀ file ∈ files, ∃ stem, ∃ extension ∈ extensions,
        file.filename = stem ++ "." ++ bareExtension extension ∧
          ¬SigmaEndsWord stem (bareExtension extension)) →
      rule.accepts (.files files) = true) ∧
    ∀ extension, extensions = [extension] → ∀ (file : Attachment) (stem : String),
      file.filename = stem ++ "." ++ bareExtension extension →
        (rule.accepts (.files [file]) = true ↔
          ¬SigmaEndsWord stem (bareExtension extension)) := by
  obtain ⟨nonempty, -, rfl⟩ := (mkFileExtension_eq_ok_iff extensions rule).mp built
  refine ⟨fun files named => ?_, ?_⟩
  · rw [accepts_fileExtension]
    intro file file_mem
    obtain ⟨stem, extension, extension_mem, filename_eq, apart⟩ := named file file_mem
    refine ⟨suffixOf extension, List.mem_map_of_mem extension_mem, ?_⟩
    rw [filename_eq, suffixOf_eq]
    exact (hasSuffix_own_iff stem _).mpr apart
  · rintro extension rfl file stem filename_eq
    rw [accepts_fileExtension, List.forall_mem_singleton, ← hasSuffix_own_iff, ← suffixOf_eq,
      ← filename_eq]
    simp

/-- A file named in capitals, where the sigma of the extension is not its first letter. -/
def odosFile : Attachment := ⟨"ΟΔΟΣ.ΑΣ", "text/plain", []⟩

theorem fileExtension_accepts_own_capitals :
    ∃ rule, mkFileExtension ["..ΑΣ"] = .ok rule ∧
      odosFile.filename = "ΟΔΟΣ" ++ "." ++ bareExtension "..ΑΣ" ∧
      ¬SigmaEndsWord "ΟΔΟΣ" (bareExtension "..ΑΣ") ∧
      rule.accepts (.files [odosFile, odosFile]) = true ∧
      rule.accepts (.files [odosFile]) = true := by
  have built := (mkFileExtension_eq_ok_iff ["..ΑΣ"] _).mpr
    ⟨List.cons_ne_nil _ _, by decide +kernel, rfl⟩
  have filename_eq : odosFile.filename = "ΟΔΟΣ" ++ "." ++ bareExtension "..ΑΣ" := by
    decide +kernel
  have apart : ¬SigmaEndsWord "ΟΔΟΣ" (bareExtension "..ΑΣ") := by
    rintro ⟨-, opens⟩
    rw [show (bareExtension "..ΑΣ").toList = ['Α', 'Σ'] by decide +kernel,
      Text.opensWithFinalSigma_cons_iff (by decide)] at opens
    exact absurd opens.1 (by decide +kernel)
  obtain ⟨accepts_named, own_iff⟩ := fileExtension_accepts_own built
  refine ⟨_, built, filename_eq, apart, accepts_named _ fun file file_mem => ?_,
    (own_iff "..ΑΣ" rfl odosFile "ΟΔΟΣ" filename_eq).mpr apart⟩
  obtain rfl : file = odosFile := by simpa using file_mem
  exact ⟨"ΟΔΟΣ", "..ΑΣ", List.mem_singleton_self _, filename_eq, apart⟩

/-- The sigma of `photo.Σ` ends the word `photo.Σ`, and that of the extension is no end. -/
theorem fileExtension_refuses_own :
    ¬∀ (extensions : List String) (rule : Rule) (files : List Attachment),
      mkFileExtension extensions = .ok rule →
      (∀ file ∈ files, ∃ stem, ∃ extension ∈ extensions,
        file.filename = stem ++ "." ++ bareExtension extension) →
      rule.accepts (.files files) = true := by
  intro accepts_own
  have built := (mkFileExtension_eq_ok_iff ["Σ"] _).mpr
    ⟨List.cons_ne_nil _ _, by decide +kernel, rfl⟩
  have accepted := accepts_own ["Σ"] _ [⟨"photo.Σ", "text/plain", []⟩] built
    (List.forall_mem_singleton.mpr ⟨"photo", "Σ", List.mem_singleton_self _, by decide +kernel⟩)
  exact absurd accepted (by decide +kernel)

end Rule

end RequestParams
