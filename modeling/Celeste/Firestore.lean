import Mathlib.Data.List.AList
import Mathlib.Data.List.Basic
import Mathlib.Data.List.Infix

/-!
# Firestore documents, references and writes

The part of the Firestore client the app's services use: how a string becomes a document
reference under a collection, which strings trap on the way, and what `setData`, `updateData`,
`delete` and `getDocuments` do to the stored documents.
-/

namespace Celeste

/-! ## Documents -/

/-- A field value as `document.data()` hands it to the decoder. -/
inductive FirestoreValue
  | null
  | boolean (value : Bool)
  | integer (value : Int)
  | double (bits : UInt64)
  | string (value : String)
  | array (elements : List FirestoreValue)
  | map (entries : List (String × FirestoreValue))
  /-- A timestamp, reference, geo point or data object, known by its class name. -/
  | object (className : String)

/-- The field dictionary of one document, `[String: Any]`. -/
abbrev Fields := AList fun _ : String => FirestoreValue

/-- The error a Firestore callback carries. -/
structure FirestoreError where
  code : Int
  deriving DecidableEq

/-- `FIRFirestoreErrorCodeNotFound`. -/
def FirestoreError.notFound : FirestoreError where
  code := 5

/-! ## References -/

/-- The segments of a slash-separated path. -/
abbrev ResourcePath := List String

/-- `ResourcePath::FromString`: `//` traps, other empty segments are skipped. -/
def ResourcePath.fromString (path : String) : Option ResourcePath :=
  if ['/', '/'] <:+: path.toList then
    none
  else
    some (((path.toList.splitOn '/').filter (· ≠ [])).map String.ofList)

/-- A document reference: a path with an even number of segments. -/
@[ext]
structure DocumentKey where
  path : ResourcePath
  even : path.length % 2 = 0
  deriving DecidableEq

/-- The `DocumentReference` constructor, which traps on an odd number of segments. -/
def DocumentKey.ofPath (path : ResourcePath) : Option DocumentKey :=
  if even : path.length % 2 = 0 then some ⟨path, even⟩ else none

/-- A collection reference: a path with an odd number of segments. -/
structure CollectionReference where
  path : ResourcePath
  odd : path.length % 2 = 1
  deriving DecidableEq

/-- `CollectionReference::Document`; `none` is a trap. -/
def CollectionReference.document (collection : CollectionReference) (documentPath : String) :
    Option DocumentKey :=
  (ResourcePath.fromString documentPath).bind fun segments =>
    DocumentKey.ofPath (collection.path ++ segments)

/-- `BasePath::IsImmediateParentOf`, the path test of a collection query. -/
def ResourcePath.isImmediateParentOf (path child : ResourcePath) : Bool :=
  path.length + 1 = child.length ∧ path <+: child

/-- A string that is one path segment, as every `UUID().uuidString` is. -/
def IsDocumentId (id : String) : Prop :=
  id ≠ "" ∧ '/' ∉ id.toList

instance (id : String) : Decidable (IsDocumentId id) := by
  unfold IsDocumentId
  infer_instance

/-- The key of the document called `id` directly under a collection. -/
def CollectionReference.key (collection : CollectionReference) (id : String) : DocumentKey where
  path := collection.path ++ [id]
  even := by
    have odd := collection.odd
    rw [List.length_append, List.length_singleton]
    omega

theorem ResourcePath.fromString_of_isDocumentId {id : String} (single : IsDocumentId id) :
    ResourcePath.fromString id = some [id] := by
  obtain ⟨nonempty, noSlash⟩ := single
  have noDoubleSlash : ¬ ['/', '/'] <:+: id.toList := by
    intro occurs
    exact noSlash (occurs.subset (by simp))
  have chars_ne : id.toList ≠ [] := by
    intro empty
    exact nonempty (by simpa using congrArg String.ofList empty)
  have split : id.toList.splitOn '/' = [id.toList] := List.splitOn_eq_singleton noSlash
  simp [ResourcePath.fromString, noDoubleSlash, split, chars_ne]

theorem not_mem_of_mem_splitOn {separator : Char} {characters piece : List Char}
    (member : piece ∈ characters.splitOn separator) : separator ∉ piece := by
  induction characters generalizing piece with
  | nil => simp_all
  | cons character characters ih =>
      rw [List.splitOn_cons_eq_if_modifyHead] at member
      split at member
      · rcases List.mem_cons.mp member with rfl | member
        · simp
        · exact ih member
      · next differs =>
          cases pieces : characters.splitOn separator with
          | nil => exact absurd pieces (List.splitOn_ne_nil separator characters)
          | cons first rest =>
              rw [pieces, List.modifyHead_cons] at member
              rw [pieces] at ih
              rcases List.mem_cons.mp member with rfl | member
              · have first_free := ih List.mem_cons_self
                have other : separator ≠ character := fun same => differs (by simp [same])
                exact List.not_mem_cons_of_ne_of_not_mem other first_free
              · exact ih (List.mem_cons_of_mem first member)

theorem ResourcePath.isDocumentId_of_fromString {id : String}
    (parsed : ResourcePath.fromString id = some [id]) : IsDocumentId id := by
  rw [ResourcePath.fromString] at parsed
  split at parsed
  · cases parsed
  · have member : id ∈ (((id.toList.splitOn '/').filter (· ≠ [])).map String.ofList) := by
      rw [Option.some.inj parsed]
      exact List.mem_cons_self
    obtain ⟨piece, kept, rfl⟩ := List.mem_map.mp member
    obtain ⟨piece_of, nonempty⟩ := List.mem_filter.mp kept
    constructor
    · simpa using nonempty
    · rw [String.toList_ofList]
      exact not_mem_of_mem_splitOn piece_of

/-- A one-segment name always resolves to the document directly under the collection. -/
theorem CollectionReference.document_of_isDocumentId (collection : CollectionReference)
    {id : String} (single : IsDocumentId id) :
    collection.document id = some (collection.key id) := by
  have even : (collection.path ++ [id]).length % 2 = 0 := (collection.key id).even
  rw [CollectionReference.document, ResourcePath.fromString_of_isDocumentId single]
  exact dif_pos even

/-- A name resolves to the document called so exactly if it is one segment. -/
theorem CollectionReference.document_eq_key_iff (collection : CollectionReference) {id : String} :
    collection.document id = some (collection.key id) ↔ IsDocumentId id := by
  constructor
  · intro resolved
    obtain ⟨segments, parsed, located⟩ := Option.bind_eq_some_iff.mp resolved
    rw [DocumentKey.ofPath] at located
    split at located
    · have path_eq : collection.path ++ segments = collection.path ++ [id] :=
        congrArg DocumentKey.path (Option.some.inj located)
      rw [List.append_cancel_left path_eq] at parsed
      exact ResourcePath.isDocumentId_of_fromString parsed
    · cases located
  · exact collection.document_of_isDocumentId

@[simp]
theorem CollectionReference.key_inj {collection : CollectionReference} {left right : String} :
    collection.key left = collection.key right ↔ left = right := by
  simp [CollectionReference.key]

theorem ResourcePath.isImmediateParentOf_iff {path child : ResourcePath} :
    path.isImmediateParentOf child = true ↔ ∃ id, child = path ++ [id] := by
  simp only [ResourcePath.isImmediateParentOf, decide_eq_true_eq]
  constructor
  · rintro ⟨lengths, rest, rfl⟩
    rw [List.length_append] at lengths
    obtain ⟨id, rfl⟩ := List.length_eq_one_iff.mp (by omega : rest.length = 1)
    exact ⟨id, rfl⟩
  · rintro ⟨id, rfl⟩
    simp

/-! ## The stored documents -/

/-- Every stored document, keyed by its reference. -/
abbrev Store := AList fun _ : DocumentKey => Fields

/-- One document of a query snapshot. -/
abbrev DocumentSnapshot := Sigma fun _ : DocumentKey => Fields

namespace Store

/-- `setData` without merging: create the document or replace it whole. -/
def setData (store : Store) (key : DocumentKey) (data : Fields) : Store :=
  store.insert key data

/-- `updateData`: overwrite the named fields of an existing document, fail on a missing one. -/
def updateData (store : Store) (key : DocumentKey) (changes : List (String × FirestoreValue)) :
    Option Store :=
  (store.lookup key).map fun data =>
    store.insert key (changes.foldl (fun data change => data.insert change.1 change.2) data)

/-- `delete`: remove the document, succeeding also when there is none. -/
def delete (store : Store) (key : DocumentKey) : Store :=
  store.erase key

/-- The documents a `getDocuments` query on a collection matches. -/
def documents (store : Store) (collection : CollectionReference) : List DocumentSnapshot :=
  store.entries.filter fun entry => collection.path.isImmediateParentOf entry.1.path

variable {store : Store} {collection : CollectionReference}

theorem mem_documents_iff {snapshot : DocumentSnapshot} :
    snapshot ∈ store.documents collection ↔
      store.lookup snapshot.1 = some snapshot.2 ∧ ∃ id, snapshot.1 = collection.key id := by
  have stored : snapshot ∈ store.entries ↔ store.lookup snapshot.1 = some snapshot.2 :=
    AList.mem_lookup_iff.symm
  have under : collection.path.isImmediateParentOf snapshot.1.path = true ↔
      ∃ id, snapshot.1 = collection.key id := by
    rw [ResourcePath.isImmediateParentOf_iff]
    simp only [CollectionReference.key, DocumentKey.ext_iff]
  rw [documents, List.mem_filter, stored, under]

theorem documents_keys_nodup : ((store.documents collection).map Sigma.fst).Nodup :=
  List.Nodup.sublist (List.Sublist.map _ List.filter_sublist) store.nodupKeys

theorem documents_nodup : (store.documents collection).Nodup :=
  documents_keys_nodup.of_map

end Store

end Celeste
