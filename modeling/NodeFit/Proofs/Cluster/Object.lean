import NodeFit.Cluster.Payload
import NodeFit.Proofs.Dictionary

/-!
# NodeFit.Proofs.Cluster.Object

What is found in the objects of a payload.

A text of an object stands at the end of a path of fields (`textAt?`), and it does not matter
which field of the path is missing.  What is found in a known field of an object that conforms to
a schema conforms to the schema of the field (`conforms_of_field?`).  So a map of labels or of
amounts holds texts only, and looking up a key finds the text at the end of the path
(`get?_textsField?`).

A payload lists objects when it is the JSON text of a list of them and all of them conform
(`Lists`); nothing else is a success of the reader (`objects?_eq_some_iff`).  For deployments no
more is asked: each object that is listed becomes a record, whose name is the one in the object's
metadata (`decodeDeployments?_eq_some_iff`).
-/

namespace NodeFit.Cluster

/-! ## Texts at the ends of paths -/

/-- The text at the end of a path of fields. -/
def textAt? : List String → Tree → Option String
  | [], .text s => some s
  | [], _ => none
  | name :: path, t => (field? name t).bind (textAt? path)

@[simp] theorem textAt?_null (path : List String) : textAt? path .null = none := by
  cases path <;> rfl

/-- A field of text is a path of one field. -/
theorem textField?_eq_textAt? (name : String) (t : Tree) : textField? name t = textAt? [name] t := by
  rw [textField?, textAt?]
  split
  · next s hfield => rw [hfield, Option.bind_some, textAt?]
  · next hno =>
      cases hfield : field? name t with
      | none => rfl
      | some value => cases value <;> first | rfl | exact absurd hfield (hno _)

/-- A missing object holds what null does. -/
theorem textAt?_getD_null (name : String) (path : List String) (t : Tree) :
    textAt? path ((field? name t).getD .null) = textAt? (name :: path) t := by
  rw [textAt?]
  cases field? name t with
  | none => exact textAt?_null path
  | some value => rfl

/-- A field that is found is an entry of a map, and not null. -/
theorem mem_of_field?_eq_some {name : String} {t value : Tree} (h : field? name t = some value) :
    value ≠ .null ∧ ∃ entries, t = .map entries ∧ (.text name, value) ∈ entries := by
  cases t with
  | map entries =>
      rw [field?] at h
      split at h
      · contradiction
      · next key value' hnull hfind =>
          obtain rfl : value' = value := Option.some.inj h
          have hkey := List.find?_some hfind
          have hmem := List.mem_reverse.1 (List.mem_of_find?_eq_some hfind)
          cases key with
          | text s =>
              obtain rfl : s = name := by simpa [isKey] using hkey
              exact ⟨hnull, entries, rfl, hmem⟩
          | _ => simp [isKey] at hkey
      · contradiction
  | _ => simp [field?] at h

/-! ## Objects that conform to a schema -/

open Schema

/-- A value that the schema of a map admits under a key conforms to the schema of that key. -/
theorem conforms_of_fieldConforms {fields : List (String × Schema)} {name : String}
    {schema : Schema} {value : Tree} (h : fieldConforms fields (.text name) value)
    (hschema : fields.lookup name = some schema) (hvalue : value ≠ .null) :
    schema.conforms value := by
  induction fields with
  | nil => contradiction
  | cons field rest ih =>
      obtain ⟨other, schema'⟩ := field
      rw [fieldConforms] at h
      rw [Dictionary.lookup_cons] at hschema
      by_cases hname : name = other
      · -- Null stands in for any value but an exact text, and this value is not null.
        obtain rfl : schema' = schema := by simpa [hname] using hschema
        have hnull : value.isNull = false := by
          cases value <;> first | rfl | exact absurd rfl hvalue
        simpa [hname, hnull] using h
      · have hother : (other == name) = false := beq_false_of_ne (Ne.symm hname)
        rw [hother] at h
        exact ih h (by simpa [hname] using hschema)

/-- What is found in a field conforms to the schema of the field. -/
theorem conforms_of_field? {fields : List (String × Schema)} {name : String} {schema : Schema}
    {t value : Tree} (h : (object fields).conforms t)
    (hschema : fields.lookup name = some schema) (hvalue : field? name t = some value) :
    schema.conforms value := by
  obtain ⟨hnull, entries, rfl, hmem⟩ := mem_of_field?_eq_some hvalue
  rw [conforms] at h
  exact conforms_of_fieldConforms (List.all_eq_true.1 h _ hmem) hschema hnull

/-- What is found in a field of a field, the first of which may be missing. -/
theorem conforms_of_field?_field? {fields fields' : List (String × Schema)} {name name' : String}
    {schema : Schema} {t value : Tree} (h : (object fields).conforms t)
    (hfields : fields.lookup name = some (object fields'))
    (hschema : fields'.lookup name' = some schema)
    (hvalue : field? name' ((field? name t).getD .null) = some value) : schema.conforms value := by
  cases hobject : field? name t with
  | none =>
      rw [hobject, Option.getD_none] at hvalue
      contradiction
  | some inner =>
      rw [hobject, Option.getD_some] at hvalue
      exact conforms_of_field? (conforms_of_field? h hfields hobject) hschema hvalue

/-- A map conforms to the schema of labels when its keys and values are all texts. -/
theorem conforms_labels_iff {entries : List (Tree × Tree)} :
    labels.conforms (.map entries) ↔
      ∀ entry ∈ entries, ∃ key value : String, entry = (.text key, .text value) := by
  have hentry : ∀ entry : Tree × Tree,
      (isTextKey entry.1 && text.conforms entry.2) = true ↔
        ∃ key value : String, entry = (.text key, .text value) := by
    rintro ⟨key, value⟩
    cases key <;> cases value <;> simp [isTextKey, conforms]
  rw [labels, conforms, List.all_eq_true]
  exact forall₂_congr fun entry _ => hentry entry

/-- Of two entries with the same key the later one is found. -/
theorem textAt?_map_cons {rest : List (Tree × Tree)} (h : labels.conforms (.map rest))
    (key other value : String) :
    textAt? [key] (.map ((.text other, .text value) :: rest)) =
      (textAt? [key] (.map rest)).or (if key = other then some value else none) := by
  simp only [textAt?, field?, List.reverse_cons, List.find?_append]
  cases hfind : rest.reverse.find? fun entry => isKey key entry.1 with
  | none =>
      by_cases hkey : key = other
      · simp [hkey, isKey, textAt?]
      · simp [hkey, Ne.symm hkey, isKey]
  | some entry =>
      have hmem := List.mem_reverse.1 (List.mem_of_find?_eq_some hfind)
      obtain ⟨_, found, rfl⟩ := conforms_labels_iff.1 h entry hmem
      simp [textAt?]

/-- A map from texts to texts holds what is found at its keys. -/
theorem get?_ofList_textPairs {entries : List (Tree × Tree)} (h : labels.conforms (.map entries))
    (key : String) :
    (Dictionary.ofList (textPairs entries)).get? key = textAt? [key] (.map entries) := by
  induction entries with
  | nil => rfl
  | cons entry rest ih =>
      obtain ⟨hentry, hrest⟩ := List.forall_mem_cons.1 (conforms_labels_iff.1 h)
      obtain ⟨other, value, rfl⟩ := hentry
      have hlabels := conforms_labels_iff.2 hrest
      have hpairs : textPairs ((.text other, .text value) :: rest) =
          (other, value) :: textPairs rest := rfl
      rw [hpairs, Dictionary.get?_ofList_cons, ih hlabels, textAt?_map_cons hlabels]

/-- What a map of texts in a field holds under a key is the text at the end of the path. -/
theorem get?_textsField? {name : String} {t : Tree}
    (h : ∀ value, field? name t = some value → labels.conforms value) (key : String) :
    ((textsField? name t).getD .empty).get? key = textAt? [name, key] t := by
  rw [textsField?, textAt?]
  cases hfield : field? name t with
  | none => rfl
  | some value =>
      have hconforms := h value hfield
      cases value with
      | map entries => exact get?_ofList_textPairs hconforms key
      | _ => rfl

/-! ## Payloads -/

/-- **A payload lists some objects of a schema.**  It is the JSON text of a list of them, and each
conforms to the schema. -/
structure Lists (schema : Schema) (payload : Bytes) (items : List Tree) : Prop where
  text : (Json.Written.ofBytes? payload).map Tree.ofWritten = some (.list items)
  conforms : ∀ t ∈ items, schema.conforms t

/-- The objects of a payload are found exactly if the payload lists them. -/
theorem objects?_eq_some_iff {schema : Schema} {payload : Bytes} {items : List Tree} :
    objects? schema payload = some items ↔ Lists schema payload items := by
  constructor
  · intro h
    rw [objects?] at h
    split at h
    · next found htext =>
        split at h
        · next hall =>
            obtain rfl : found = items := Option.some.inj h
            exact ⟨htext, List.all_eq_true.1 hall⟩
        · contradiction
    · contradiction
  · intro h
    rw [objects?, h.text]
    exact if_pos (List.all_eq_true.2 h.conforms)

theorem conforms_of_objects? {schema : Schema} {payload : Bytes} {items : List Tree}
    (h : objects? schema payload = some items) : ∀ t ∈ items, schema.conforms t :=
  (objects?_eq_some_iff.1 h).conforms

/-! ## Deployments -/

/-- The name of a deployment stands in its metadata; a missing one is empty. -/
theorem WorkloadRecord.name_ofTree (ns : String) (t : Tree) :
    (WorkloadRecord.ofTree ns t).name = (textAt? ["metadata", "name"] t).getD "" := by
  simp only [WorkloadRecord.ofTree, textField?_eq_textAt?, textAt?_getD_null]

/-- **The deployments of a payload are the objects that it lists**, all of which must be
deployments. -/
theorem decodeDeployments?_eq_some_iff {payload : Bytes} {ns : String}
    {deployments : List WorkloadRecord} :
    decodeDeployments? payload ns = some deployments ↔
      ∃ items, Lists .deployment payload items ∧
        items.map (WorkloadRecord.ofTree ns) = deployments := by
  simp only [decodeDeployments?, Option.map_eq_some_iff, objects?_eq_some_iff]

end NodeFit.Cluster
