import Mathlib.Data.List.Induction
import RequestParams.Proofs.Lookup
import RequestParams.Proofs.Value.RoundTrip
import RequestParams.RequestInputs

/-!
# Request inputs as a log of operations

A store of request inputs is put together by operations one after the other: texts are set or
replaced as a whole, a body is set, files are added. This file says what a lookup gives in terms of
the operations alone: the text last written under the key, a member of the body last set, all files
added under the name. Each operation keeps that correspondence for all sources at once, and hence
every run does.
-/

namespace RequestParams

/-- The sources that supply texts. -/
inductive TextSource
  | route
  | query
  | form
  | header
deriving DecidableEq

namespace TextSource

/-- The source among all sources. -/
def toSource : TextSource → Source
  | route => .route
  | query => .query
  | form => .form
  | header => .header

theorem toSource_injective {source other : TextSource} (same : source.toSource = other.toSource) :
    source = other := by
  cases source <;> cases other <;> first | rfl | cases same

/-- The texts that a store holds for the source. -/
def texts : TextSource → RequestInputs → Texts
  | route, r => r.route
  | query, r => r.query
  | form, r => r.form
  | header, r => r.headers

/-- The key under which a text is kept: a header name in ASCII lower case, all else as it is. -/
def keptKey : TextSource → String → String
  | header, key => Text.lowerAscii key
  | _, key => key

end TextSource

/-- The member of an object under a key. -/
def Json.member? (document : Json) (key : String) : Option Json :=
  match document with
  | .object members => members.lookup key
  | _ => none

namespace RequestInputs

/-- A step in putting a store together. -/
inductive Operation
  /-- Sets the text of a key. -/
  | set (source : TextSource) (key text : String)
  /-- Replaces all texts of a source by those of a map. -/
  | replace (source : TextSource) (pairs : List (String × String))
  /-- Sets the body. -/
  | setJson (body : Json)
  /-- Sets the body from bytes; bytes that are no document leave the store as it is. -/
  | setJsonBytes (bytes : List UInt8)
  /-- Adds a file. -/
  | addFile (name : String) (file : Attachment)

namespace Operation

/-- The store after the operation. -/
def apply (r : RequestInputs) : Operation → RequestInputs
  | set .route key text => r.setRoute key text
  | set .query key text => r.setQuery key text
  | set .form key text => r.setForm key text
  | set .header key text => r.setHeader key text
  | replace .route pairs => r.replaceRoute pairs
  | replace .query pairs => r.replaceQuery pairs
  | replace .form pairs => r.replaceForm pairs
  | replace .header pairs => r.replaceHeaders pairs
  | setJson body => r.setJson body
  | setJsonBytes bytes => (r.setJsonBytes? bytes).getD r
  | addFile name file => r.addFile name file

/-- The source whose values the operation may change. -/
def source : Operation → Source
  | set source _ _ | replace source _ => source.toSource
  | setJson _ | setJsonBytes _ => .json
  | addFile _ _ => .file

/-- A map that replaces texts has each key once, header names compared in ASCII lower case. -/
def KeysDistinct : Operation → Prop
  | replace source pairs => (pairs.map fun pair => source.keptKey pair.1).Nodup
  | _ => True

/-- The operation puts this text under a key. -/
inductive Writes (source : TextSource) (key text : String) : Operation → Prop
  | set {given : String} (same_key : source.keptKey given = source.keptKey key) :
      Writes source key text (.set source given text)
  | replace {pairs : List (String × String)} {given : String} (pair_mem : (given, text) ∈ pairs)
      (same_key : source.keptKey given = source.keptKey key) :
      Writes source key text (.replace source pairs)

/-- The operation leaves nothing of what was under a key. -/
inductive Overwrites (source : TextSource) (key : String) : Operation → Prop
  | set {given text : String} (same_key : source.keptKey given = source.keptKey key) :
      Overwrites source key (.set source given text)
  | replace {pairs : List (String × String)} : Overwrites source key (.replace source pairs)

/-- The body that the operation sets. -/
def body? : Operation → Option Json
  | setJson body => some body
  | setJsonBytes bytes => Json.ofBytes? bytes
  | _ => none

/-- The file that the operation adds under a name. -/
def added? (name : String) : Operation → Option Attachment
  | addFile given file => if given = name then some file else none
  | _ => none

end Operation

/-- The store after operations, first to last, on a request without values. -/
def ofOperations (ops : List Operation) : RequestInputs := ops.foldl Operation.apply empty

/-- The last of the operations that has to do with a key puts this text under it. -/
def LastWritten (ops : List Operation) (source : TextSource) (key text : String) : Prop :=
  ∃ before op after, ops = before ++ op :: after ∧ op.Writes source key text ∧
    ∀ later ∈ after, ¬later.Overwrites source key

/-- The body set last. -/
def lastBody? (ops : List Operation) : Option Json := (ops.filterMap Operation.body?).getLast?

/-- The files added under a name, first to last. -/
def filesAdded (ops : List Operation) (name : String) : List Attachment :=
  ops.filterMap (Operation.added? name)

end RequestInputs

/-! ## Texts and uploads by key -/

theorem Texts.lookup_set (texts : Texts) (key text other : String) :
    (texts.set key text).lookup other = if other = key then some text else texts.lookup other := by
  rw [Texts.set, lookup_cons_eq_ite, lookup_filter_ne]
  split <;> rfl

theorem Texts.lookup_ofPairs {pairs : List (String × String)}
    (distinct : (pairs.map Prod.fst).Nodup) (key : String) :
    (Texts.ofPairs pairs).lookup key = pairs.lookup key :=
  lookup_foldl_put_of_nodup Texts.set Texts.lookup_set distinct key

theorem Uploads.lookup_add (uploads : Uploads) (name : String) (file : Attachment)
    (other : String) :
    (uploads.add name file).lookup other =
      if other = name then some ((uploads.lookup name).getD [] ++ [file])
      else uploads.lookup other := by
  rw [Uploads.add, lookup_cons_eq_ite, lookup_filter_ne]
  split <;> rfl

namespace RequestInputs

/-! ## What one operation does -/

theorem lookup_toSource (r : RequestInputs) (source : TextSource) (key : String) :
    r.lookup source.toSource key = (source.texts r).get? (source.keptKey key) := by
  cases source <;> rfl

namespace Operation

variable (r : RequestInputs)

theorem Writes.overwrites {source : TextSource} {key text : String} {op : Operation}
    (writes : op.Writes source key text) : op.Overwrites source key := by
  cases writes with
  | set same_key => exact .set same_key
  | replace => exact .replace

/-- Where an operation does not overwrite a key, what was there before is there after it. -/
theorem writes_or_kept_iff_of_not_overwrites {source : TextSource} {key text : String}
    {op : Operation} (kept : ¬op.Overwrites source key) (before : Prop) :
    op.Writes source key text ∨ ¬op.Overwrites source key ∧ before ↔ before := by
  have not_written : ¬op.Writes source key text := fun writes => kept writes.overwrites
  simp only [not_written, kept, false_or, not_false_eq_true, true_and]

/-- Where an operation overwrites a key, only what it writes is there after it. -/
theorem writes_or_kept_iff_of_overwrites {source : TextSource} {key text : String}
    {op : Operation} (overwrites : op.Overwrites source key) (before : Prop) :
    op.Writes source key text ∨ ¬op.Overwrites source key ∧ before ↔
      op.Writes source key text := by
  simp only [overwrites, not_true_eq_false, false_and, or_false]

theorem Overwrites.source_eq {source : TextSource} {key : String} {op : Operation}
    (overwrites : op.Overwrites source key) : op.source = source.toSource := by
  cases overwrites <;> rfl

theorem apply_setJsonBytes (bytes : List UInt8) :
    apply r (setJsonBytes bytes) = ((Json.ofBytes? bytes).map r.setJson).getD r := rfl

theorem texts_apply_set (source : TextSource) (given text : String) :
    source.texts (apply r (set source given text)) =
      (source.texts r).set (source.keptKey given) text := by
  cases source <;> rfl

theorem texts_apply_replace (source : TextSource) (pairs : List (String × String)) :
    source.texts (apply r (replace source pairs)) =
      .ofPairs (pairs.map fun pair => (source.keptKey pair.1, pair.2)) := by
  cases source with
  | header => rfl
  | route | query | form =>
      have kept : (pairs.map fun pair => (pair.1, pair.2)) = pairs := List.map_id pairs
      exact congrArg Texts.ofPairs kept.symm

/-- An operation on another source leaves the texts of a source as they are. -/
theorem texts_apply_of_ne {op : Operation} {source : TextSource}
    (other : op.source ≠ source.toSource) : source.texts (apply r op) = source.texts r := by
  cases op with
  | set given key text | replace given pairs =>
      cases given <;> cases source <;> first | rfl | exact absurd rfl other
  | setJson body => cases source <;> rfl
  | setJsonBytes bytes =>
      rw [apply_setJsonBytes]
      cases Json.ofBytes? bytes <;> cases source <;> rfl
  | addFile name file => cases source <;> rfl

/-- The body after an operation is the one it sets, or else the one before. -/
theorem body_apply (op : Operation) :
    (apply r op).body = (op.body?.map Value.ofJson).or r.body := by
  cases op with
  | set source key text | replace source pairs => cases source <;> rfl
  | setJson body => rfl
  | setJsonBytes bytes =>
      rw [apply_setJsonBytes, body?]
      cases Json.ofBytes? bytes <;> rfl
  | addFile name file => rfl

theorem body?_eq_none_of_ne {op : Operation} (other : op.source ≠ .json) : op.body? = none := by
  cases op with
  | setJson body | setJsonBytes bytes => exact absurd rfl other
  | set source key text | replace source pairs | addFile name file => rfl

/-- The files under a name after an operation end in the one that it adds under that name. -/
theorem lookup_uploads_apply (op : Operation) (name : String) :
    (apply r op).uploads.lookup name =
      match op.added? name with
      | some file => some ((r.uploads.lookup name).getD [] ++ [file])
      | none => r.uploads.lookup name := by
  cases op with
  | set source key text | replace source pairs => cases source <;> rfl
  | setJson body => rfl
  | setJsonBytes bytes =>
      rw [apply_setJsonBytes]
      cases Json.ofBytes? bytes <;> rfl
  | addFile given file =>
      have added : (apply r (addFile given file)).uploads = r.uploads.add given file := rfl
      rw [added, Uploads.lookup_add, added?]
      by_cases same : given = name
      · rw [if_pos same.symm, if_pos same, same]
      · rw [if_neg (Ne.symm same), if_neg same]

theorem added?_eq_none_of_ne {op : Operation} (other : op.source ≠ .file) (name : String) :
    op.added? name = none := by
  cases op with
  | addFile given file => exact absurd rfl other
  | set source key text | replace source pairs | setJson body | setJsonBytes bytes => rfl

theorem lookup_texts_set_iff (source : TextSource) (given stored key text : String) :
    (source.texts (apply r (set source given stored))).lookup (source.keptKey key) = some text ↔
      (set source given stored).Writes source key text ∨
        ¬(set source given stored).Overwrites source key ∧
          (source.texts r).lookup (source.keptKey key) = some text := by
  rw [texts_apply_set, Texts.lookup_set]
  by_cases same : source.keptKey key = source.keptKey given
  · rw [if_pos same, writes_or_kept_iff_of_overwrites (.set same.symm)]
    constructor
    · intro found
      exact Option.some.inj found ▸ .set same.symm
    · intro writes
      cases writes
      rfl
  · have kept : ¬(set source given stored).Overwrites source key := by
      rintro ⟨same_key⟩
      exact same same_key.symm
    rw [if_neg same, writes_or_kept_iff_of_not_overwrites kept]

theorem lookup_texts_replace_iff {source : TextSource} {pairs : List (String × String)}
    (distinct : (replace source pairs).KeysDistinct) (key text : String) :
    (source.texts (apply r (replace source pairs))).lookup (source.keptKey key) = some text ↔
      (replace source pairs).Writes source key text := by
  have kept_distinct :
      ((pairs.map fun pair => (source.keptKey pair.1, pair.2)).map Prod.fst).Nodup := by
    rw [List.map_map]
    exact distinct
  rw [texts_apply_replace, Texts.lookup_ofPairs kept_distinct,
    lookup_eq_some_iff_mem kept_distinct, List.mem_map]
  constructor
  · rintro ⟨⟨given, stored⟩, pair_mem, kept_eq⟩
    obtain ⟨same_key, rfl⟩ := Prod.mk.inj kept_eq
    exact .replace pair_mem same_key
  · rintro (_ | ⟨pair_mem, same_key⟩)
    exact ⟨_, pair_mem, Prod.ext same_key rfl⟩

/-- After an operation a text is found under a key if the operation writes it, or if it was found
before and the operation does not overwrite the key. -/
theorem lookup_texts_apply_iff {op : Operation} (distinct : op.KeysDistinct) (source : TextSource)
    (key text : String) :
    (source.texts (apply r op)).lookup (source.keptKey key) = some text ↔
      op.Writes source key text ∨
        ¬op.Overwrites source key ∧ (source.texts r).lookup (source.keptKey key) = some text := by
  by_cases other : op.source ≠ source.toSource
  · have kept : ¬op.Overwrites source key := fun overwrites => other overwrites.source_eq
    rw [texts_apply_of_ne r other, writes_or_kept_iff_of_not_overwrites kept]
  · have same := Decidable.not_not.mp other
    cases op with
    | set given_source given stored =>
        obtain rfl := TextSource.toSource_injective same
        exact lookup_texts_set_iff r given_source given stored key text
    | replace given_source pairs =>
        obtain rfl := TextSource.toSource_injective same
        rw [lookup_texts_replace_iff r distinct, writes_or_kept_iff_of_overwrites .replace]
    | setJson body | setJsonBytes bytes | addFile name file => cases source <;> cases same

end Operation

/-! ## What a run leaves -/

theorem ofOperations_append_singleton (ops : List Operation) (op : Operation) :
    ofOperations (ops ++ [op]) = op.apply (ofOperations ops) := by
  rw [ofOperations, List.foldl_append]
  rfl

/-- With one more operation a text is the last written if that operation writes it, or if it was
before and the operation does not overwrite the key. -/
theorem lastWritten_append_singleton_iff (ops : List Operation) (op : Operation)
    (source : TextSource) (key text : String) :
    LastWritten (ops ++ [op]) source key text ↔
      op.Writes source key text ∨ ¬op.Overwrites source key ∧ LastWritten ops source key text := by
  constructor
  · rintro ⟨before, writer, after, split, writes, after_keep⟩
    rcases List.eq_nil_or_concat after with rfl | ⟨earlier, last, rfl⟩
    · obtain ⟨-, writer_eq⟩ := List.append_inj' split rfl
      obtain rfl := List.singleton_inj.mp writer_eq
      exact .inl writes
    · have split' : ops ++ [op] = (before ++ writer :: earlier) ++ [last] := by simpa using split
      obtain ⟨rfl, last_eq⟩ := List.append_inj' split' rfl
      obtain rfl := List.singleton_inj.mp last_eq
      refine .inr ⟨after_keep op (by simp), before, writer, earlier, rfl, writes, ?_⟩
      exact fun later later_mem => after_keep later (by simp [later_mem])
  · rintro (writes | ⟨kept, before, writer, after, rfl, writes, after_keep⟩)
    · exact ⟨ops, op, [], rfl, writes, by simp⟩
    · refine ⟨before, writer, after ++ [op], by simp, writes, fun later later_mem => ?_⟩
      rcases List.mem_append.mp later_mem with earlier | last
      · exact after_keep later earlier
      · exact List.mem_singleton.mp last ▸ kept

theorem not_lastWritten_nil (source : TextSource) (key text : String) :
    ¬LastWritten [] source key text := by
  rintro ⟨before, op, after, split, -⟩
  simp at split

/-- What a store holds is what the operations say. -/
structure Records (ops : List Operation) (r : RequestInputs) : Prop where
  /-- Texts are those last written under their keys. -/
  texts : ∀ (source : TextSource) (key text : String),
    (source.texts r).lookup (source.keptKey key) = some text ↔ LastWritten ops source key text
  /-- The body is the one last set. -/
  body : r.body = (lastBody? ops).map Value.ofJson
  /-- Files are all those added under their names. -/
  uploads : ∀ name, r.uploads.lookup name =
    if filesAdded ops name = [] then none else some (filesAdded ops name)

theorem records_empty : Records [] empty where
  texts source key text := by
    have nothing : source.texts empty = [] := by cases source <;> rfl
    rw [nothing, List.lookup_nil]
    exact iff_of_false (by simp) (not_lastWritten_nil source key text)
  body := rfl
  uploads _ := rfl

/-- An operation keeps the correspondence for all sources at once. -/
theorem Records.append {ops : List Operation} {r : RequestInputs} (records : Records ops r)
    {op : Operation} (distinct : op.KeysDistinct) : Records (ops ++ [op]) (op.apply r) where
  texts source key text := by
    rw [Operation.lookup_texts_apply_iff r distinct, lastWritten_append_singleton_iff,
      records.texts]
  body := by
    rw [Operation.body_apply, records.body, lastBody?, lastBody?, List.filterMap_append,
      List.getLast?_append]
    cases set : op.body? <;> simp [set]
  uploads name := by
    rw [Operation.lookup_uploads_apply, records.uploads, filesAdded, filesAdded,
      List.filterMap_append]
    cases added : op.added? name with
    | none => simp [added]
    | some file =>
        by_cases first : ops.filterMap (Operation.added? name) = []
        · simp [added, first]
        · simp [added, first]

theorem records_ofOperations (ops : List Operation) (distinct : ∀ op ∈ ops, op.KeysDistinct) :
    Records ops (ofOperations ops) := by
  -- The correspondence is about all operations so far, so the induction takes the last one off.
  induction ops using List.reverseRecOn with
  | nil => exact records_empty
  | append_singleton ops op induction =>
      rw [ofOperations_append_singleton]
      have earlier_distinct : ∀ earlier ∈ ops, earlier.KeysDistinct :=
        fun earlier earlier_mem => distinct earlier (List.mem_append_left [op] earlier_mem)
      exact (induction earlier_distinct).append (distinct op (by simp))

/-! ## Lookups -/

/-- A key of the body is a member of the document, if that is an object. -/
theorem lookup_json_of_body {r : RequestInputs} {document : Option Json}
    (body_eq : r.body = document.map Value.ofJson) (key : String) :
    r.lookup .json key = (document.bind fun body => body.member? key).map Value.ofJson := by
  rw [lookup, body_eq]
  cases document with
  | none => rfl
  | some document =>
      rw [Option.map_some, Option.bind_some]
      cases document with
      | object members =>
          rw [Value.ofJson, Value.ofJsonMembers_eq_map]
          exact lookup_map (fun _ member => Value.ofJson member) members key
      | number n =>
          cases n with
          | unsigned n =>
              rw [Value.ofJson, Value.ofJsonNumber]
              by_cases fits : n.toNat ≤ Int64.maxValue.toInt
              · rw [if_pos fits]
                rfl
              · rw [if_neg fits]
                rfl
          | negative n _ | float x _ => rfl
      | null | bool _ | string _ | array _ => rfl

theorem lookup_apply_of_ne (r : RequestInputs) {op : Operation} {source : Source}
    (other : op.source ≠ source) (key : String) :
    (op.apply r).lookup source key = r.lookup source key := by
  have same_text : ∀ texts : TextSource, texts.toSource = source →
      (op.apply r).lookup source key = r.lookup source key := by
    rintro texts rfl
    rw [lookup_toSource, lookup_toSource, op.texts_apply_of_ne r other]
  cases source with
  | route => exact same_text .route rfl
  | query => exact same_text .query rfl
  | form => exact same_text .form rfl
  | header => exact same_text .header rfl
  | json =>
      have same_body : (op.apply r).body = r.body := by
        rw [op.body_apply, op.body?_eq_none_of_ne other]
        rfl
      rw [lookup, lookup, same_body]
  | file => rfl

theorem files_apply_of_ne (r : RequestInputs) {op : Operation} (other : op.source ≠ .file)
    (name : String) : (op.apply r).files name = r.files name := by
  rw [files, files, op.lookup_uploads_apply, op.added?_eq_none_of_ne other]

/-- Whatever operations put a store together, with the keys of each map distinct, its lookups say
what was written: under the key of a text source the text last written under it and not overwritten
since; under a key of the body that member of the object last set as the body; under a name all
files added to it, in order. Bytes that are no document change nothing, and an operation on one
source changes no lookup in another one. -/
theorem lookups_follow_writes (ops : List Operation) (distinct : ∀ op ∈ ops, op.KeysDistinct) :
    (∀ (source : TextSource) (key : String) (value : Value),
      (ofOperations ops).lookup source.toSource key = some value ↔
        ∃ text, value = .str text ∧ LastWritten ops source key text) ∧
    (∀ key, (ofOperations ops).lookup .json key =
      ((lastBody? ops).bind fun body => body.member? key).map Value.ofJson) ∧
    (∀ name, (ofOperations ops).files name =
      if filesAdded ops name = [] then none else some (filesAdded ops name)) ∧
    (∀ r bytes, setJsonBytes? r bytes = none → (Operation.setJsonBytes bytes).apply r = r) ∧
    ∀ (r : RequestInputs) (op : Operation),
      (∀ source, op.source ≠ source → ∀ key,
        (op.apply r).lookup source key = r.lookup source key) ∧
      (op.source ≠ .file → ∀ name, (op.apply r).files name = r.files name) := by
  have records := records_ofOperations ops distinct
  refine ⟨fun source key value => ?_, lookup_json_of_body records.body, records.uploads,
    fun r bytes fails => ?_, fun r op => ⟨fun source => lookup_apply_of_ne r, files_apply_of_ne r⟩⟩
  · rw [lookup_toSource, Texts.get?, Option.map_eq_some_iff]
    simp only [records.texts, and_comm, @eq_comm _ _ value]
  · rw [Operation.apply, fails, Option.getD_none]

/-- Headers replaced as a whole, and then one of them set again in another spelling of its name. -/
def spelledTwice : List Operation :=
  [.replace .header [("Accept", "text/html"), ("Host", "a")], .set .header "ACCEPT" "text/plain"]

/-- The header set again has the later text in any spelling, the other one its first text. -/
theorem lookups_follow_writes_headers :
    (∀ op ∈ spelledTwice, op.KeysDistinct) ∧
      (ofOperations spelledTwice).lookup .header "aCCept" = some (.str "text/plain") ∧
      (ofOperations spelledTwice).lookup .header "host" = some (.str "a") := by
  have names_distinct :
      (Operation.replace .header [("Accept", "text/html"), ("Host", "a")]).KeysDistinct := by
    rw [Operation.KeysDistinct]
    decide
  have distinct : ∀ op ∈ spelledTwice, op.KeysDistinct :=
    List.forall_mem_cons.mpr ⟨names_distinct, List.forall_mem_singleton.mpr trivial⟩
  have follows := (lookups_follow_writes spelledTwice distinct).1 .header
  refine ⟨distinct, (follows "aCCept" _).mpr ⟨_, rfl, ?_⟩, (follows "host" _).mpr ⟨_, rfl, ?_⟩⟩
  · exact ⟨[.replace .header [("Accept", "text/html"), ("Host", "a")]],
      .set .header "ACCEPT" "text/plain", [], rfl, .set (by decide), by simp⟩
  · have host_mem : ("Host", "a") ∈ [("Accept", "text/html"), ("Host", "a")] := by simp
    refine ⟨[], .replace .header [("Accept", "text/html"), ("Host", "a")],
      [.set .header "ACCEPT" "text/plain"], rfl, .replace host_mem (by decide), ?_⟩
    intro later later_mem
    obtain rfl := List.mem_singleton.mp later_mem
    rintro ⟨same_key⟩
    exact absurd same_key (by decide)

end RequestInputs

end RequestParams
