import Dataflow.Proofs.Json.Record

set_option autoImplicit false

/-! # Normal forms

A value is brought into its normal form once and for all (`Json.normalize_normalize`), and what
readers keep of values they do not look into is in normal form. Readers look members up by name,
so that they see no difference between a value and its normal form. `Json.Insensitive` says so of
a reader: what it reads of a value it reads of the normal form, too. The readers of records are
put together from such readers, one field after another (`Json.Insensitive.record`,
`Json.FieldsInsensitive`), or by their tag (`Json.tagged?_normalize`).
-/

namespace Dataflow.Json

/-! ## The normal form of a normal form -/

theorem normalizeItems_eq_map (items : List Json) :
    normalizeItems items = items.map normalize := by
  induction items with
  | nil => rfl
  | cons v rest ih => rw [normalizeItems, ih, List.map_cons]

/-- The members of a normal form as a map. -/
theorem normalizeMembers_eq_ofList (members : List (String × Json)) :
    normalizeMembers members = .ofList (members.map fun m => (m.1, m.2.normalize)) := by
  induction members with
  | nil => rfl
  | cons m rest ih =>
      obtain ⟨name, v⟩ := m
      have hinsert : normalizeMembers ((name, v) :: rest) =
          (normalizeMembers rest).insertNew name v.normalize := by
        rw [normalizeMembers]
        rfl
      refine Dict.ext_get? fun k => ?_
      rw [hinsert, Dict.get?_insertNew, List.map_cons, Dict.get?_ofList_cons, ih]

/-- A map of values in normal form is the one of its own members. -/
theorem normalizeMembers_toList {d : Dict String Json}
    (h : ∀ k v, d.get? k = some v → v.normalize = v) : normalizeMembers d.toList = d := by
  have hmap : (d.map fun _ v => v.normalize) = d := Dict.map_eq_self_iff.2 h
  calc normalizeMembers d.toList
      = .ofList (d.map fun _ v => v.normalize).toList := normalizeMembers_eq_ofList _
    _ = d.map fun _ v => v.normalize := Dict.ofList_toList _
    _ = d := hmap

mutual

/-- **A normal form is in normal form.** -/
theorem normalize_normalize : (v : Json) → v.normalize.normalize = v.normalize
  | .null => rfl
  | .bool _ => rfl
  | .number _ => rfl
  | .text _ => rfl
  | .array items => congrArg Json.array (normalizeItems_normalizeItems items)
  | .object members =>
      congrArg (fun d : Dict String Json => Json.object d.toList)
        (normalizeMembers_toList (normalize_of_get?_normalizeMembers members))

theorem normalizeItems_normalizeItems :
    (items : List Json) → normalizeItems (normalizeItems items) = normalizeItems items
  | [] => rfl
  | v :: rest => by
      rw [normalizeItems, normalizeItems, normalize_normalize v,
        normalizeItems_normalizeItems rest]

theorem normalize_of_get?_normalizeMembers :
    (members : List (String × Json)) →
      ∀ k v, (normalizeMembers members).get? k = some v → v.normalize = v
  | [], _, _, h => nomatch h
  | (name, w) :: rest, k, v, h => by
      have hget : (normalizeMembers ((name, w) :: rest)).get? k =
          ((normalizeMembers rest).get? k).or (if k = name then some w.normalize else none) := by
        rw [normalizeMembers]
        exact Dict.get?_insertNew _ _ _ _
      rw [hget] at h
      rcases Option.or_eq_some_iff.1 h with hrest | ⟨-, hfirst⟩
      · exact normalize_of_get?_normalizeMembers rest k v hrest
      · split at hfirst
        · obtain rfl := Option.some.inj hfirst
          exact normalize_normalize w
        · cases hfirst

end

theorem normalize_eq_null_iff {v : Json} : v.normalize = .null ↔ v = .null := by
  cases v <;> simp [normalize]

/-- What is read of a value that may be left out is not `null`, and in normal form. -/
theorem normal_of_present? {v w : Json} (h : v.present? = some w) :
    w ≠ .null ∧ w.normalize = w := by
  have hv : v ≠ .null := by
    rintro rfl
    cases h
  have hw : v.normalize = w := by
    cases v with
    | null => exact absurd rfl hv
    | _ => exact Option.some.inj h
  subst hw
  exact ⟨fun hnull => hv (normalize_eq_null_iff.1 hnull), normalize_normalize v⟩

theorem dict?_any?_eq_normalizeMembers (members : List (String × Json)) :
    dict? any? (.object members) = some (normalizeMembers members) := by
  rw [dict?_any?_object, normalizeMembers_eq_ofList]

/-- The values of a map that is read are in normal form. -/
theorem normal_of_dict?_any? {v w : Json} {d : Dict String Json} {key : String}
    (h : dict? any? v = some d) (hget : d.get? key = some w) : w.normalize = w := by
  cases v with
  | object members =>
      rw [dict?_any?_eq_normalizeMembers] at h
      obtain rfl := Option.some.inj h
      exact normalize_of_get?_normalizeMembers members key w hget
  | _ => cases h

/-! ## Where data were read from -/

variable {α β : Type}

section Origin

variable {read : Json → Option α} {f : Fields} {name : String} {v : Json} {a : α}

theorem exists_read_of_required (h : required f name read = some a) : ∃ v, read v = some a := by
  obtain ⟨v, -, hv⟩ := Option.bind_eq_some_iff.1 h
  exact ⟨v, hv⟩

/-- What is read of a field that may be left out is read from a value, or the default. -/
theorem eq_default_or_read_of_optional {default : α} (h : optional f name default read = some a) :
    a = default ∨ ∃ v, read v = some a := by
  rw [optional] at h
  cases hfield : f name with
  | none =>
      rw [hfield] at h
      exact .inl (Option.some.inj h).symm
  | some v =>
      rw [hfield] at h
      exact .inr ⟨v, h⟩

theorem exists_read_of_nullable? (h : nullable? read v = some (some a)) :
    ∃ v, read v = some a := by
  cases v with
  | null => cases h
  | _ =>
      obtain ⟨b, hb, hab⟩ := Option.map_eq_some_iff.1 h
      cases hab
      exact ⟨_, hb⟩

/-- Each element of a list that is read is read from an item. -/
theorem exists_read_of_list? {l : List α} (h : list? read v = some l) (ha : a ∈ l) :
    ∃ w, read w = some a := by
  obtain ⟨items, -, hitems⟩ := list?_eq_some_iff.1 h
  obtain ⟨w, -, hw⟩ := (exists_of_forall₂ hitems).2 a ha
  exact ⟨w, hw⟩

/-- A list that may be left out is read, unless it is left out. -/
theorem exists_read_of_optional_list? {l : List α}
    (h : optional f name [] (list? read) = some l) (ha : a ∈ l) : ∃ w, read w = some a := by
  rcases eq_default_or_read_of_optional h with rfl | ⟨v, hv⟩
  · cases ha
  · exact exists_read_of_list? hv ha

end Origin

/-! ## Readers that see no difference -/

/-- What a reader reads of a value it reads of the normal form of the value, too. -/
def Insensitive (read : Json → Option α) : Prop :=
  ∀ v a, read v = some a → read v.normalize = some a

theorem insensitive_text? : Insensitive text? := by
  intro v a h
  cases v with
  | text s => exact h
  | _ => cases h

theorem insensitive_bool? : Insensitive bool? := by
  intro v a h
  cases v with
  | bool b => exact h
  | _ => cases h

theorem insensitive_uuid? : Insensitive uuid? := by
  intro v a h
  cases v with
  | text s => exact h
  | _ => cases h

theorem insensitive_word? (form : Form) : Insensitive (word? form) := by
  intro v a h
  unfold word? at h
  split at h
  · exact h
  · exact h
  · exact h
  · cases h

theorem insensitive_any? : Insensitive any? := by
  intro v a h
  obtain rfl := Option.some.inj h
  exact congrArg some (normalize_normalize v)

theorem insensitive_dict?_any? : Insensitive (dict? any?) := by
  intro v d h
  cases v with
  | object members =>
      rw [dict?_any?_eq_normalizeMembers] at h
      obtain rfl := Option.some.inj h
      show dict? any? (.object (normalizeMembers members).toList) = _
      rw [dict?_any?_eq_normalizeMembers]
      exact congrArg some (normalizeMembers_toList (normalize_of_get?_normalizeMembers members))
  | _ => cases h

theorem insensitive_tag? (form : Form) (words : List String) :
    Insensitive (tag? form words) := by
  intro v a h
  cases v with
  | text s => exact h
  | number n => exact h
  | _ => cases h

namespace Insensitive

theorem bind {read : Json → Option α} (h : Insensitive read) (f : α → Option β) :
    Insensitive fun v => (read v).bind f := by
  intro v b hb
  obtain ⟨a, ha, hf⟩ := Option.bind_eq_some_iff.1 hb
  exact Option.bind_eq_some_iff.2 ⟨a, h v a ha, hf⟩

theorem nullable {read : Json → Option α} (h : Insensitive read) :
    Insensitive (nullable? read) := by
  have hvalue : ∀ {v : Json}, v ≠ .null → nullable? read v = (read v).map some := by
    intro v hv
    cases v with
    | null => exact absurd rfl hv
    | _ => rfl
  intro v o ho
  by_cases hv : v = .null
  · subst hv
    exact ho
  · rw [hvalue hv] at ho
    rw [hvalue fun hnull => hv (normalize_eq_null_iff.1 hnull)]
    obtain ⟨a, ha, rfl⟩ := Option.map_eq_some_iff.1 ho
    exact Option.map_eq_some_iff.2 ⟨a, h v a ha, rfl⟩

theorem list {read : Json → Option α} (h : Insensitive read) : Insensitive (list? read) := by
  intro v l hl
  obtain ⟨items, rfl, hitems⟩ := list?_eq_some_iff.1 hl
  refine list?_eq_some_iff.2 ⟨items.map normalize, ?_, ?_⟩
  · rw [normalize, normalizeItems_eq_map]
  · exact List.forall₂_map_left_iff.2 (hitems.imp h)

end Insensitive

/-! ## Records -/

theorem lookup_toList (d : Dict String Json) (name : String) :
    d.toList.lookup name = d.get? name := by
  have hlookup : ∀ l : List (String × Json), l.lookup name = Dict.find name l := by
    intro l
    induction l with
    | nil => rfl
    | cons e rest ih =>
        obtain ⟨key, v⟩ := e
        rw [Dict.find_cons, List.lookup_cons, ih]
        by_cases hname : name = key
        · rw [if_pos hname, beq_iff_eq.2 hname]
        · rw [if_neg hname, beq_eq_false_iff_ne.2 hname]
  exact hlookup d.entries

/-- A member whose name does not come twice is found in the normal form. -/
theorem get?_normalizeMembers {members : List (String × Json)} {name : String}
    (h : occurrences name members ≤ 1) :
    (normalizeMembers members).get? name = (members.lookup name).map normalize := by
  rw [normalizeMembers_eq_ofList]
  induction members with
  | nil => rfl
  | cons m rest ih =>
      obtain ⟨key, v⟩ := m
      rw [occurrences, List.countP_cons] at h
      rw [List.map_cons, Dict.get?_ofList_cons, List.lookup_cons]
      by_cases hname : name = key
      · have hkey : (key == name) = true := beq_iff_eq.2 hname.symm
        rw [hkey, if_pos rfl] at h
        -- there is no other member with the name
        have hrest : rest.countP (fun m => m.1 == name) = 0 := by omega
        have hnone : (Dict.ofList (rest.map fun m => (m.1, m.2.normalize))).get? name = none := by
          rw [← Option.not_isSome_iff_eq_none, Dict.isSome_get?_ofList, List.map_map]
          intro hmem
          obtain ⟨m, hm, hmname⟩ := List.mem_map.1 hmem
          exact List.countP_eq_zero.1 hrest m hm (beq_iff_eq.2 hmname)
        rw [hnone, Option.none_or, if_pos hname, beq_iff_eq.2 hname]
        rfl
      · have hcount : occurrences name rest ≤ 1 := Nat.le_of_add_right_le h
        rw [ih hcount, if_neg hname, Option.or_none, beq_eq_false_iff_ne.2 hname]

/-- A name that a map has comes once among its members. -/
theorem occurrences_toList {d : Dict String Json} {name : String} {v : Json}
    (h : d.get? name = some v) : occurrences name d.toList = 1 := by
  have hkeys : (d.toList.map (·.1)).Nodup := Dict.nodup_keys d
  have hmem : (name, v) ∈ d.toList := (Dict.mem_entries_iff d name v).2 h
  have hpos : 0 < occurrences name d.toList :=
    List.countP_pos_iff.2 ⟨(name, v), hmem, beq_self_eq_true name⟩
  have hle := occurrences_le_one hkeys name
  omega

/-- Dropping a name and normalizing can be done in any order. -/
theorem filter_normalizeMembers (members : List (String × Json)) (name : String) :
    (normalizeMembers members).toList.filter (fun m => m.1 != name) =
      (normalizeMembers (members.filter fun m => m.1 != name)).toList := by
  have hget : ∀ k, (normalizeMembers (members.filter fun m => m.1 != name)).get? k =
      if k = name then none else (normalizeMembers members).get? k := by
    intro k
    rw [normalizeMembers_eq_ofList, normalizeMembers_eq_ofList]
    -- a dropped member is one that no look-up under another name would find
    induction members with
    | nil =>
        split <;> rfl
    | cons m rest ih =>
        obtain ⟨key, v⟩ := m
        rw [List.map_cons, Dict.get?_ofList_cons]
        by_cases hkey : key = name
        · rw [List.filter_cons_of_neg (by simp [hkey]), ih]
          by_cases hk : k = name
          · rw [if_pos hk, if_pos hk]
          · rw [if_neg hk, if_neg hk, if_neg fun h => hk (h.trans hkey), Option.or_none]
        · rw [List.filter_cons_of_pos (by simpa using hkey), List.map_cons,
            Dict.get?_ofList_cons, ih]
          by_cases hk : k = name
          · rw [if_pos hk, if_pos hk, Option.none_or, if_neg fun h => hkey (h.symm.trans hk)]
          · rw [if_neg hk, if_neg hk]
  have hfilter : (normalizeMembers members).erase name =
      normalizeMembers (members.filter fun m => m.1 != name) := by
    refine Dict.ext_get? fun k => ?_
    rw [Dict.get?_erase, hget]
  have hentries : (normalizeMembers members).toList.filter (fun m => m.1 != name) =
      ((normalizeMembers members).erase name).toList := by
    refine List.filter_congr fun m _ => ?_
    rw [Bool.eq_iff_iff, bne_iff_ne, bne_iff_ne, Ne, Ne, Std.LawfulEqCmp.compare_eq_iff_eq]
    exact not_congr eq_comm
  rw [hentries, hfilter]

theorem lookup_zip_normalize (names : List String) (items : List Json) (name : String) :
    (names.zip (items.map normalize)).lookup name =
      ((names.zip items).lookup name).map normalize := by
  induction names generalizing items with
  | nil => rfl
  | cons n rest ih =>
      cases items with
      | nil => rfl
      | cons v items =>
          rw [List.map_cons, List.zip_cons_cons, List.zip_cons_cons, List.lookup_cons,
            List.lookup_cons, ih]
          cases name == n <;> rfl

/-- **The fields of a record are the normal forms of its fields.** -/
theorem fields?_normalize {names : List String} {v : Json} {f : Fields}
    (h : v.fields? names = some f) :
    v.normalize.fields? names = some fun name => (f name).map normalize := by
  cases v with
  | object members =>
      rw [fields?] at h
      split at h
      · rename_i hall
        obtain rfl := Option.some.inj h
        have hkeys : ((normalizeMembers members).toList.map (·.1)).Nodup := Dict.nodup_keys _
        show fields? names (.object (normalizeMembers members).toList) = _
        rw [fields?_object hkeys]
        refine congrArg some (funext fun name => ?_)
        dsimp only
        by_cases hname : names.contains name = true
        · have hcount : occurrences name members ≤ 1 :=
            of_decide_eq_true (List.all_eq_true.1 hall name (List.contains_iff_mem.1 hname))
          rw [if_pos hname, if_pos hname, lookup_toList, get?_normalizeMembers hcount]
        · rw [if_neg hname, if_neg hname]
          rfl
      · cases h
  | array items =>
      rw [fields?] at h
      split at h
      · rename_i hlength
        obtain rfl := Option.some.inj h
        show fields? names (.array (normalizeItems items)) = _
        rw [normalizeItems_eq_map, fields?, List.length_map, if_pos hlength]
        exact congrArg some (funext fun name => lookup_zip_normalize names items name)
      · cases h
  | _ => cases h

/-- **A value without its tag is in normal form if the value is.** -/
theorem tagged?_normalize {form : Form} {tag word : String} {words : List String} {v rest : Json}
    (h : tagged? form tag words v = some (word, rest)) :
    tagged? form tag words v.normalize = some (word, rest.normalize) := by
  cases v with
  | object members =>
      rw [tagged?] at h
      split at h
      · rename_i hone
        obtain ⟨w, hw, hpair⟩ := Option.bind_eq_some_iff.1 h
        cases hpair
        obtain ⟨t, ht, hword⟩ := Option.bind_eq_some_iff.1 hw
        have hget : (normalizeMembers members).get? tag = some t.normalize := by
          rw [get?_normalizeMembers (Nat.le_of_eq hone), ht]
          rfl
        have hcount : occurrences tag (normalizeMembers members).toList = 1 :=
          occurrences_toList hget
        have hrest : (normalizeMembers members).toList.filter (fun m => m.1 != tag) =
            (normalizeMembers (members.filter fun m => m.1 != tag)).toList :=
          filter_normalizeMembers members tag
        show tagged? form tag words (.object (normalizeMembers members).toList) =
          some (word, .object (normalizeMembers (members.filter fun m => m.1 != tag)).toList)
        rw [tagged?, if_pos hcount, lookup_toList, hget, hrest, Option.bind_some,
          insensitive_tag? form words t word hword]
        rfl
      · cases h
  | array items =>
      cases items with
      | nil => cases h
      | cons first items =>
          obtain ⟨w, hw, hpair⟩ := Option.map_eq_some_iff.1 h
          cases hpair
          exact Option.map_eq_some_iff.2 ⟨word, insensitive_tag? form words first word hw, rfl⟩
  | _ => cases h

/-- What is read of the fields of a record is read of their normal forms, too. -/
def FieldsInsensitive (read : Fields → Option α) : Prop :=
  ∀ f a, read f = some a → read (fun name => (f name).map normalize) = some a

/-- A record that is read by its fields. -/
theorem Insensitive.record {names : List String} {read : Fields → Option α}
    (h : FieldsInsensitive read) : Insensitive fun v => v.fields? names >>= read := by
  intro v a ha
  obtain ⟨f, hf, hread⟩ := Option.bind_eq_some_iff.1 ha
  exact bind_of_some (fields?_normalize hf) (h f a hread)

namespace FieldsInsensitive

theorem required {read : Json → Option α} (h : Insensitive read) {name : String} :
    FieldsInsensitive fun f => Json.required f name read := by
  intro f a ha
  obtain ⟨v, hv, hread⟩ := Option.bind_eq_some_iff.1 ha
  exact required_of_some (Option.map_eq_some_iff.2 ⟨v, hv, rfl⟩) (h v a hread)

theorem optional {read : Json → Option α} (h : Insensitive read) {name : String} {default : α} :
    FieldsInsensitive fun f => Json.optional f name default read := by
  intro f a ha
  dsimp only [Json.optional] at ha ⊢
  cases hv : f name with
  | none =>
      rw [hv] at ha
      exact ha
  | some v =>
      rw [hv] at ha
      exact h v a ha

/-- One field after another. -/
theorem bind {read : Fields → Option α} {next : α → Fields → Option β}
    (h : FieldsInsensitive read) (hnext : ∀ a, FieldsInsensitive (next a)) :
    FieldsInsensitive fun f => read f >>= fun a => next a f := by
  intro f b hb
  obtain ⟨a, ha, hread⟩ := Option.bind_eq_some_iff.1 hb
  exact bind_of_some (h f a ha) (hnext a f b hread)

/-- No field is left. -/
theorem done (a : α) : FieldsInsensitive fun _ => some a := fun _ _ h => h

end FieldsInsensitive

end Dataflow.Json
