import RequestParams.Arguments
import RequestParams.Proofs.Fields

/-!
# The document of arguments

Arguments of distinct names make an object that holds the document of each argument under its name.
The object has as many members as there are arguments, and what is read by name is what the argument
of that name is.
-/

namespace RequestParams.Arguments

/-- The names with their documents, in the order of the entries. -/
def documents (args : Arguments) : List (String × Json) :=
  args.entries.map fun entry => (entry.1, entryJson entry.2)

theorem toJson_eq (args : Arguments) : args.toJson = .object (Fields.ofList args.documents) := rfl

theorem map_fst_documents (args : Arguments) :
    args.documents.map Prod.fst = args.entries.map Prod.fst :=
  List.map_map

theorem contains_eq_true_iff (args : Arguments) (name : String) :
    args.contains name = true ↔ name ∈ args.entries.map Prod.fst := by
  simp [contains]

variable {args : Arguments} (distinct : (args.entries.map Prod.fst).Nodup)
include distinct

theorem lookup_documents (name : String) :
    (Fields.ofList args.documents).lookup name = (args.entries.lookup name).map entryJson := by
  rw [Fields.lookup_ofList (args.map_fst_documents ▸ distinct)]
  exact lookup_map (fun _ argument => entryJson argument) args.entries name

theorem perm_documents : (Fields.ofList args.documents).Perm args.documents :=
  Fields.perm_ofList (args.map_fst_documents ▸ distinct)

theorem get?_eq_some_iff (name : String) (value : Value) :
    args.get? name = some value ↔ (name, some value) ∈ args.entries := by
  rw [get?, Option.join_eq_some_iff, lookup_eq_some_iff_mem distinct]

/-- A name that is there and has no value is that of an absent argument. -/
theorem mem_of_get?_eq_none {name : String} (name_mem : name ∈ args.entries.map Prod.fst)
    (no_value : args.get? name = none) : (name, none) ∈ args.entries := by
  obtain ⟨⟨_, argument⟩, entry_mem, rfl⟩ := List.mem_map.mp name_mem
  cases argument with
  | none => exact entry_mem
  | some value =>
      rw [(get?_eq_some_iff distinct _ value).mpr entry_mem] at no_value
      cases no_value

end RequestParams.Arguments
