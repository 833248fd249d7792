import RequestParams.Proofs.Rule.FileExtension

/-!
# Extensions of files and files of an allowed extension

The extension of a file is what follows the last dot of its name. Files of an allowed extension are
told by the end of their names in lower case. For extensions without a dot inside the two agree, on
names without a capital sigma: lower case keeps the dots of a name and makes none, so that the last
dot of the name is also the last one of its lower case.
-/

namespace RequestParams

namespace Attachment

theorem afterLastDot?_append {extension : List Char} (no_dot : '.' ∉ extension)
    (stem : List Char) : afterLastDot? (stem ++ '.' :: extension) = some extension := by
  have dotless : ∀ c ∈ extension.reverse, (c != '.') = true := by
    intro c c_mem
    rw [bne_iff_ne]
    rintro rfl
    exact no_dot (List.mem_reverse.mp c_mem)
  have last_dot :
      (stem ++ '.' :: extension).reverse = extension.reverse ++ '.' :: stem.reverse := by
    simp
  rw [afterLastDot?, if_pos (by simp), last_dot, List.takeWhile_append_of_pos dotless,
    List.takeWhile_cons_of_neg (by decide), List.append_nil, List.reverse_reverse]

theorem afterLastDot?_of_not_mem {s : List Char} (no_dot : '.' ∉ s) : afterLastDot? s = none :=
  if_neg no_dot

/-- A text with a dot has a last one. -/
theorem exists_last_dot {s : List Char} (dot_mem : '.' ∈ s) :
    ∃ stem extension, s = stem ++ '.' :: extension ∧ '.' ∉ extension := by
  obtain ⟨reversed, rest, split, no_dot⟩ :=
    List.eq_append_cons_of_mem (List.mem_reverse.mpr dot_mem)
  refine ⟨rest.reverse, reversed.reverse, ?_, by simpa using no_dot⟩
  rw [← List.reverse_reverse s, split]
  simp

/-- What follows the last dot is what follows a dot and has none itself. -/
theorem afterLastDot?_eq_some_iff (s extension : List Char) :
    afterLastDot? s = some extension ↔ '.' ∉ extension ∧ '.' :: extension <:+ s := by
  constructor
  · intro found
    have dot_mem : '.' ∈ s := by
      by_contra no_dot
      rw [afterLastDot?_of_not_mem no_dot] at found
      cases found
    obtain ⟨stem, last, rfl, no_dot⟩ := exists_last_dot dot_mem
    rw [afterLastDot?_append no_dot] at found
    obtain rfl := Option.some.inj found
    exact ⟨no_dot, stem, rfl⟩
  · rintro ⟨no_dot, stem, rfl⟩
    exact afterLastDot?_append no_dot stem

theorem mem_of_mem_afterLastDot? {s extension : List Char}
    (found : afterLastDot? s = some extension) {c : Char} (c_mem : c ∈ extension) : c ∈ s :=
  ((afterLastDot?_eq_some_iff s extension).mp found).2.subset (List.mem_cons_of_mem _ c_mem)

theorem extension?_eq_some_iff (file : Attachment) (extension : String) :
    file.extension? = some extension ↔
      extension ≠ "" ∧ afterLastDot? file.filename.toList = some extension.toList := by
  have nonempty_iff : extension ≠ "" ↔ extension.toList ≠ [] :=
    not_congr String.toList_eq_nil_iff.symm
  rw [extension?, nonempty_iff]
  cases afterLastDot? file.filename.toList with
  | none => simp
  | some characters =>
      rw [Option.some.injEq]
      cases characters with
      | nil => exact iff_of_false nofun fun ⟨nonempty, blank⟩ => nonempty blank.symm
      | cons first rest =>
          rw [Option.some.injEq, ← String.toList_inj, String.toList_ofList, iff_and_self]
          rintro last_eq blank
          rw [blank] at last_eq
          cases last_eq

/-- Lower case by characters leaves the last dot the last one. -/
theorem afterLastDot?_flatMap_lowerChar (s : List Char) :
    afterLastDot? (s.flatMap Text.lowerChar) =
      (afterLastDot? s).map (·.flatMap Text.lowerChar) := by
  by_cases dot_mem : '.' ∈ s
  · obtain ⟨stem, extension, rfl, no_dot⟩ := exists_last_dot dot_mem
    have no_dot_lower : '.' ∉ extension.flatMap Text.lowerChar := by
      rwa [Text.dot_mem_flatMap_lowerChar_iff]
    rw [List.flatMap_append, List.flatMap_cons, Text.lowerChar_dot, List.singleton_append,
      afterLastDot?_append no_dot_lower, afterLastDot?_append no_dot, Option.map_some]
  · have no_dot_lower : '.' ∉ s.flatMap Text.lowerChar := by
      rwa [Text.dot_mem_flatMap_lowerChar_iff]
    rw [afterLastDot?_of_not_mem dot_mem, afterLastDot?_of_not_mem no_dot_lower, Option.map_none]

end Attachment

theorem Text.toList_lower {s : String} (plain : 'Σ' ∉ s.toList) :
    (Text.lower s).toList = s.toList.flatMap Text.lowerChar := by
  rw [Text.lower, String.toList_ofList, Text.lowerFrom_eq_flatMap plain]

/-- A filename ends in the suffix of an extension without a dot if its own extension is the same in
lower case. -/
theorem hasSuffix_iff_extension? {file : Attachment} {extension : String}
    (name_plain : 'Σ' ∉ file.filename.toList) (plain : 'Σ' ∉ extension.toList)
    (no_dot : '.' ∉ extension.toList) (nonempty : Text.lower extension ≠ "") :
    hasSuffix file.filename ("." ++ Text.lower extension) = true ↔
      ∃ own, file.extension? = some own ∧ Text.lower own = Text.lower extension := by
  have no_dot_lower : '.' ∉ extension.toList.flatMap Text.lowerChar := by
    rwa [Text.dot_mem_flatMap_lowerChar_iff]
  have suffix_iff : hasSuffix file.filename ("." ++ Text.lower extension) = true ↔
      (Attachment.afterLastDot? file.filename.toList).map (·.flatMap Text.lowerChar) =
        some (extension.toList.flatMap Text.lowerChar) := by
    rw [← Attachment.afterLastDot?_flatMap_lowerChar, Attachment.afterLastDot?_eq_some_iff,
      and_iff_right no_dot_lower, hasSuffix, List.isSuffixOf_iff_suffix, String.toList_append,
      Text.toList_lower plain, Text.toList_lower name_plain]
    rfl
  rw [suffix_iff, Option.map_eq_some_iff]
  constructor
  · rintro ⟨own, found, lower_eq⟩
    have own_plain : 'Σ' ∉ (String.ofList own).toList := by
      rw [String.toList_ofList]
      exact fun sigma_mem => name_plain (Attachment.mem_of_mem_afterLastDot? found sigma_mem)
    have lower_own : Text.lower (String.ofList own) = Text.lower extension := by
      rw [← String.toList_inj, Text.toList_lower own_plain, Text.toList_lower plain,
        String.toList_ofList, lower_eq]
    have own_nonempty : String.ofList own ≠ "" := by
      intro blank
      rw [blank] at lower_own
      exact nonempty lower_own.symm
    refine ⟨String.ofList own, ?_, lower_own⟩
    rw [Attachment.extension?_eq_some_iff, String.toList_ofList]
    exact ⟨own_nonempty, found⟩
  · rintro ⟨own, own_eq, lower_own⟩
    obtain ⟨-, found⟩ := (Attachment.extension?_eq_some_iff file own).mp own_eq
    have own_plain : 'Σ' ∉ own.toList :=
      fun sigma_mem => name_plain (Attachment.mem_of_mem_afterLastDot? found sigma_mem)
    refine ⟨own.toList, found, ?_⟩
    rw [← Text.toList_lower own_plain, ← Text.toList_lower plain, lower_own]

/-- An extension that is not blank is still there in lower case, without the dots before it. -/
theorem lower_bareExtension_ne_empty {extensions : List String}
    (not_blank : (extensions.map suffixOf).contains "." = false) {extension : String}
    (extension_mem : extension ∈ extensions) : Text.lower (bareExtension extension) ≠ "" := by
  intro blank
  have suffix_eq : suffixOf extension = "." := by
    rw [suffixOf_eq, blank]
    rfl
  have suffix_mem : "." ∈ extensions.map suffixOf :=
    List.mem_map.mpr ⟨extension, extension_mem, suffix_eq⟩
  rw [List.contains_eq_mem, decide_eq_true suffix_mem] at not_blank
  cases not_blank

theorem mem_of_mem_bareExtension {extension : String} {c : Char}
    (c_mem : c ∈ (bareExtension extension).toList) : c ∈ extension.toList := by
  rw [bareExtension, String.toList_ofList] at c_mem
  exact (List.dropWhile_suffix _).subset c_mem

namespace Rule

/-- Where neither names nor extensions have a capital sigma, and the extensions have no dot inside,
files are accepted exactly if each has an extension, and that is one of the allowed ones up to
case. -/
theorem accepts_fileExtension_iff_extension? {extensions : List String} {rule : Rule}
    (built : mkFileExtension extensions = .ok rule)
    (undotted : ∀ extension ∈ extensions, '.' ∉ (bareExtension extension).toList)
    (plain : ∀ extension ∈ extensions, 'Σ' ∉ extension.toList) (files : List Attachment)
    (names_plain : ∀ file ∈ files, 'Σ' ∉ file.filename.toList) :
    rule.accepts (.files files) = true ↔
      ∀ file ∈ files, ∃ own, file.extension? = some own ∧
        ∃ extension ∈ extensions, Text.lower own = Text.lower (bareExtension extension) := by
  obtain ⟨nonempty, not_blank, rfl⟩ := (mkFileExtension_eq_ok_iff extensions rule).mp built
  rw [accepts_fileExtension]
  refine forall₂_congr fun file file_mem => ?_
  have suffix_iff : ∀ extension ∈ extensions, hasSuffix file.filename (suffixOf extension) = true ↔
      ∃ own, file.extension? = some own ∧
        Text.lower own = Text.lower (bareExtension extension) := by
    intro extension extension_mem
    have bare_plain : 'Σ' ∉ (bareExtension extension).toList :=
      fun sigma_mem => plain extension extension_mem (mem_of_mem_bareExtension sigma_mem)
    rw [suffixOf_eq]
    exact hasSuffix_iff_extension? (names_plain file file_mem) bare_plain
      (undotted extension extension_mem) (lower_bareExtension_ne_empty not_blank extension_mem)
  constructor
  · rintro ⟨suffix, suffix_mem, ends⟩
    obtain ⟨extension, extension_mem, rfl⟩ := List.mem_map.mp suffix_mem
    obtain ⟨own, own_eq, lower_eq⟩ := (suffix_iff extension extension_mem).mp ends
    exact ⟨own, own_eq, extension, extension_mem, lower_eq⟩
  · rintro ⟨own, own_eq, extension, extension_mem, lower_eq⟩
    exact ⟨suffixOf extension, List.mem_map_of_mem extension_mem,
      (suffix_iff extension extension_mem).mpr ⟨own, own_eq, lower_eq⟩⟩

/-- A file of two dots, and one without a stem whose extension is longer in lower case. -/
def photoFiles : List Attachment := [⟨"old.photo.pNg", "image/png", []⟩, ⟨".İ", "image/png", []⟩]

theorem accepts_fileExtension_iff_extension?_photos :
    ∃ rule, mkFileExtension ["..PNG", "i\u0307"] = .ok rule ∧
      (∀ extension ∈ ["..PNG", "i\u0307"], '.' ∉ (bareExtension extension).toList) ∧
      (∀ extension ∈ ["..PNG", "i\u0307"], 'Σ' ∉ extension.toList) ∧
      (∀ file ∈ photoFiles, 'Σ' ∉ file.filename.toList) ∧
      rule.accepts (.files photoFiles) = true ∧
      ∀ file ∈ photoFiles, ∃ own, file.extension? = some own ∧
        ∃ extension ∈ ["..PNG", "i\u0307"],
          Text.lower own = Text.lower (bareExtension extension) := by
  have built := (mkFileExtension_eq_ok_iff ["..PNG", "i\u0307"] _).mpr
    ⟨List.cons_ne_nil _ _, by decide +kernel, rfl⟩
  have undotted : ∀ extension ∈ ["..PNG", "i\u0307"], '.' ∉ (bareExtension extension).toList := by
    decide +kernel
  have plain : ∀ extension ∈ ["..PNG", "i\u0307"], 'Σ' ∉ extension.toList := by decide +kernel
  have names_plain : ∀ file ∈ photoFiles, 'Σ' ∉ file.filename.toList := by decide +kernel
  have extended : ∀ file ∈ photoFiles, ∃ own, file.extension? = some own ∧
      ∃ extension ∈ ["..PNG", "i\u0307"],
        Text.lower own = Text.lower (bareExtension extension) := by
    refine List.forall_mem_cons.mpr ⟨⟨"pNg", ?_, "..PNG", by decide, ?_⟩,
      List.forall_mem_singleton.mpr ⟨"İ", ?_, "i\u0307", by decide, ?_⟩⟩ <;> decide +kernel
  have agree := accepts_fileExtension_iff_extension? built undotted plain photoFiles names_plain
  exact ⟨_, built, undotted, plain, names_plain, agree.mpr extended, extended⟩

end Rule

end RequestParams
