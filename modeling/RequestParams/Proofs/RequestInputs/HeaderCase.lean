import RequestParams.Proofs.RequestInputs.WriteLog
import RequestParams.Proofs.Text.Spelling

/-!
# The case of header names

Two requests put together by the same operations, but for the case of the names that headers are set
or replaced under, hold the same. Each pair of operations writes and overwrites the same keys, so
that the stores stay alike from one pair to the next; and stores that are alike give the same to
whoever looks something up in them.
-/

namespace RequestParams.RequestInputs

open Text (SameButCase)

/-! ## Operations in another case -/

namespace Operation

/-- The entry has the same text under its name in another case. -/
def SameEntry (pair other : String × String) : Prop :=
  SameButCase pair.1 other.1 ∧ other.2 = pair.2

/-- The operation does the same with header names in another case. A map of them may yield its
entries in another order then. -/
inductive Respelled : Operation → Operation → Prop
  /-- Nothing is changed. -/
  | same (op : Operation) : Respelled op op
  /-- A header is set under its name in another case. -/
  | set {name other text : String} (respelled : SameButCase name other) :
      Respelled (.set .header name text) (.set .header other text)
  /-- Headers are replaced by the same texts under their names in another case. -/
  | replace {pairs moved others : List (String × String)}
      (entries : List.Forall₂ SameEntry pairs moved) (perm : others.Perm moved) :
      Respelled (.replace .header pairs) (.replace .header others)

/-! ### What is kept -/

/-- The entries of a map with their keys as they are kept. -/
def keptPairs (source : TextSource) (pairs : List (String × String)) : List (String × String) :=
  pairs.map fun pair => (source.keptKey pair.1, pair.2)

theorem keptKey_header_eq {name other : String} (same : SameButCase name other) :
    TextSource.header.keptKey other = TextSource.header.keptKey name :=
  ((Text.lowerAscii_eq_lowerAscii_iff name other).mpr same).symm

/-- Entries under names in another case are kept alike. -/
theorem keptPairs_header_eq {pairs moved : List (String × String)}
    (entries : List.Forall₂ SameEntry pairs moved) :
    keptPairs .header moved = keptPairs .header pairs := by
  induction entries with
  | nil => rfl
  | cons entry _ induction =>
      exact congrArg₂ List.cons (Prod.ext (keptKey_header_eq entry.1) entry.2) induction

theorem keptPairs_header_perm {pairs moved others : List (String × String)}
    (entries : List.Forall₂ SameEntry pairs moved) (perm : others.Perm moved) :
    (keptPairs .header others).Perm (keptPairs .header pairs) := by
  rw [← keptPairs_header_eq entries]
  exact perm.map _

theorem writes_set_iff (source given_source : TextSource) (given stored key text : String) :
    (set given_source given stored).Writes source key text ↔
      given_source = source ∧ source.keptKey given = source.keptKey key ∧ stored = text := by
  constructor
  · rintro ⟨same_key⟩
    exact ⟨rfl, same_key, rfl⟩
  · rintro ⟨rfl, same_key, rfl⟩
    exact .set same_key

theorem writes_replace_iff (source given_source : TextSource) (pairs : List (String × String))
    (key text : String) :
    (replace given_source pairs).Writes source key text ↔
      given_source = source ∧ (source.keptKey key, text) ∈ keptPairs source pairs := by
  constructor
  · rintro (_ | ⟨pair_mem, same_key⟩)
    exact ⟨rfl, List.mem_map.mpr ⟨_, pair_mem, Prod.ext same_key rfl⟩⟩
  · rintro ⟨rfl, kept_mem⟩
    obtain ⟨⟨given, stored⟩, pair_mem, kept_eq⟩ := List.mem_map.mp kept_mem
    obtain ⟨same_key, rfl⟩ := Prod.mk.inj kept_eq
    exact .replace pair_mem same_key

theorem overwrites_set_iff (source given_source : TextSource) (given stored key : String) :
    (set given_source given stored).Overwrites source key ↔
      given_source = source ∧ source.keptKey given = source.keptKey key := by
  constructor
  · rintro ⟨same_key⟩
    exact ⟨rfl, same_key⟩
  · rintro ⟨rfl, same_key⟩
    exact .set same_key

theorem overwrites_replace_iff (source given_source : TextSource) (pairs : List (String × String))
    (key : String) :
    (replace given_source pairs).Overwrites source key ↔ given_source = source := by
  constructor
  · rintro (_ | _)
    rfl
  · rintro rfl
    exact .replace

theorem keysDistinct_replace_iff (source : TextSource) (pairs : List (String × String)) :
    (replace source pairs).KeysDistinct ↔ ((keptPairs source pairs).map Prod.fst).Nodup := by
  rw [KeysDistinct, keptPairs, List.map_map]
  rfl

/-! ### What is the same in another case -/

namespace Respelled

variable {op other : Operation}

theorem writes_iff (respelled : op.Respelled other) (source : TextSource) (key text : String) :
    other.Writes source key text ↔ op.Writes source key text := by
  cases respelled with
  | same => exact Iff.rfl
  | set same_name =>
      rw [writes_set_iff, writes_set_iff]
      refine and_congr_right ?_
      rintro rfl
      rw [keptKey_header_eq same_name]
  | replace entries perm =>
      rw [writes_replace_iff, writes_replace_iff]
      refine and_congr_right ?_
      rintro rfl
      exact (keptPairs_header_perm entries perm).mem_iff

theorem overwrites_iff (respelled : op.Respelled other) (source : TextSource) (key : String) :
    other.Overwrites source key ↔ op.Overwrites source key := by
  cases respelled with
  | same => exact Iff.rfl
  | set same_name =>
      rw [overwrites_set_iff, overwrites_set_iff]
      refine and_congr_right ?_
      rintro rfl
      rw [keptKey_header_eq same_name]
  | replace => rw [overwrites_replace_iff, overwrites_replace_iff]

theorem keysDistinct (respelled : op.Respelled other) (distinct : op.KeysDistinct) :
    other.KeysDistinct := by
  cases respelled with
  | same => exact distinct
  | set => trivial
  | replace entries perm =>
      rw [keysDistinct_replace_iff] at distinct ⊢
      exact ((keptPairs_header_perm entries perm).map Prod.fst).nodup_iff.mpr distinct

theorem body?_eq (respelled : op.Respelled other) : other.body? = op.body? := by
  cases respelled <;> rfl

theorem added?_eq (respelled : op.Respelled other) (name : String) :
    other.added? name = op.added? name := by
  cases respelled <;> rfl

end Respelled

end Operation

/-! ## Stores that are alike -/

/-- The stores hold the same, in whatever order. -/
structure Alike (r other : RequestInputs) : Prop where
  /-- The same texts are kept under the same keys. -/
  texts : ∀ (source : TextSource) (key : String),
    (source.texts other).lookup (source.keptKey key) = (source.texts r).lookup (source.keptKey key)
  /-- The body is the same. -/
  body : other.body = r.body
  /-- The same files are kept under the same names, in the same order. -/
  uploads : ∀ name, other.uploads.lookup name = r.uploads.lookup name

namespace Alike

variable {r other : RequestInputs}

/-- An operation and the same one in another case keep stores alike. -/
theorem apply (alike : r.Alike other) {op moved : Operation} (respelled : op.Respelled moved)
    (distinct : op.KeysDistinct) : (op.apply r).Alike (moved.apply other) where
  texts source key := by
    have moved_distinct := respelled.keysDistinct distinct
    refine Option.ext fun text => ?_
    rw [Operation.lookup_texts_apply_iff other moved_distinct,
      Operation.lookup_texts_apply_iff r distinct, respelled.writes_iff, respelled.overwrites_iff,
      alike.texts]
  body := by rw [Operation.body_apply, Operation.body_apply, respelled.body?_eq, alike.body]
  uploads name := by
    rw [Operation.lookup_uploads_apply, Operation.lookup_uploads_apply, respelled.added?_eq,
      alike.uploads]

/-- Operations one after the other keep stores alike. -/
theorem foldl (alike : r.Alike other) {ops moved : List Operation}
    (respelled : List.Forall₂ Operation.Respelled ops moved)
    (distinct : ∀ op ∈ ops, op.KeysDistinct) :
    (ops.foldl Operation.apply r).Alike (moved.foldl Operation.apply other) := by
  induction respelled generalizing r other with
  | nil => exact alike
  | cons first _ induction =>
      obtain ⟨first_distinct, rest_distinct⟩ := List.forall_mem_cons.mp distinct
      exact induction (alike.apply first first_distinct) rest_distinct

theorem lookup_eq (alike : r.Alike other) (source : Source) (key : String) :
    other.lookup source key = r.lookup source key := by
  have same_text : ∀ texts : TextSource, texts.toSource = source →
      other.lookup source key = r.lookup source key := by
    rintro texts rfl
    rw [lookup_toSource, lookup_toSource, Texts.get?, Texts.get?, alike.texts]
  cases source with
  | route => exact same_text .route rfl
  | query => exact same_text .query rfl
  | form => exact same_text .form rfl
  | header => exact same_text .header rfl
  | json => rw [lookup, lookup, alike.body]
  | file => rfl

/-- Whoever looks something up finds the same in stores that are alike. -/
theorem provider_eq (alike : r.Alike other) : other.provider = r.provider := by
  have same_lookup : other.lookup = r.lookup :=
    funext fun source => funext fun key => alike.lookup_eq source key
  have same_files : other.files = r.files := funext alike.uploads
  rw [provider, provider, same_lookup, same_files]

end Alike

/-- Header names in another case make no difference to what a request gives. -/
theorem provider_ofOperations_eq {ops moved : List Operation}
    (respelled : List.Forall₂ Operation.Respelled ops moved)
    (distinct : ∀ op ∈ ops, op.KeysDistinct) :
    (ofOperations moved).provider = (ofOperations ops).provider := by
  have empty_alike : empty.Alike empty := ⟨fun _ _ => rfl, rfl, fun _ => rfl⟩
  exact (empty_alike.foldl respelled distinct).provider_eq

end RequestParams.RequestInputs
