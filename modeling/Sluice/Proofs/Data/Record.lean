import Mathlib.Data.List.Nodup
import Sluice.Data.Field

/-!
# Records in their two forms

A record is read from named values or from the list of its values. Whatever the record, both forms
are read field by field in the order of declaration, and this is all that is needed to compare them.

* `ReadAlike read d d'`: two values are read as the same, if at all;
* `Reads first checks named listed`: the two readers take the fields of `checks` one after the
  other;
* `RoundTrips names read write`: what is written is read as the same again, whatever its form;
* `Reads.roundTrips`: records that are read field by field round-trip if their fields do.
-/

namespace Sluice

variable {α : Type}

/-- A computation in two steps gives a result exactly if both steps do. -/
theorem bind_eq_ok_iff {β ε : Type} {x : Except ε β} {f : β → Except ε α} {a : α} :
    x >>= f = .ok a ↔ ∃ b, x = .ok b ∧ f b = .ok a := by
  cases x with
  | error e => exact ⟨nofun, nofun⟩
  | ok b => exact ⟨fun h => ⟨b, rfl, h⟩, fun ⟨_, hb, h⟩ => Except.ok.inj hb ▸ h⟩

/-- Both values are read as the same, or neither is read. -/
def ReadAlike (read : Data → Except Fault α) (d d' : Data) : Prop :=
  ∀ v, read d = .ok v ↔ read d' = .ok v

/-- The value under a name that stands only once is the one that is found there. -/
theorem lookup_eq_some_of_mem {fields : List (String × Data)} {name : String} {value : Data}
    (hkeys : (fields.map Prod.fst).Nodup) (hmem : (name, value) ∈ fields) :
    fields.lookup name = some value := by
  induction fields with
  | nil => cases hmem
  | cons first rest ih =>
    rw [List.map_cons, List.nodup_cons] at hkeys
    obtain rfl | hmem := List.mem_cons.1 hmem
    · exact List.lookup_cons_self
    · have hne : name ≠ first.1 := fun hsame =>
        hkeys.1 (hsame ▸ List.mem_map_of_mem (f := Prod.fst) hmem)
      rw [List.lookup_cons, beq_false_of_ne hne]
      exact ih hkeys.2 hmem

/-- The order of named values does not matter for what is found under a name. -/
theorem lookup_perm {fields fields' : List (String × Data)} (hperm : fields'.Perm fields)
    (hkeys : (fields.map Prod.fst).Nodup) (name : String) :
    fields'.lookup name = fields.lookup name := by
  cases hfound : fields.lookup name with
  | none =>
    rw [List.lookup_eq_none_iff] at hfound ⊢
    intro field hfield
    exact hfound field (hperm.subset hfield)
  | some value =>
    obtain ⟨before, after, hsplit, -⟩ := List.lookup_eq_some_iff.1 hfound
    apply lookup_eq_some_of_mem ((hperm.map Prod.fst).nodup_iff.2 hkeys)
    exact hperm.mem_iff.2 (by simp [hsplit])

/-! ## Field by field -/

/-- Fields without their readers: the names, and the faults in their values. -/
abbrev Checks := List (String × (Data → Option Fault))

/-- The readers take the fields one after the other, by name, or by position from `first` on. -/
inductive Reads : Nat → Checks → (List (String × Data) → Except Fault α) →
    (String → List Data → Except Fault α) → Prop where
  /-- All fields have been taken. -/
  | done (first : Nat) (v : α) : Reads first [] (fun _ => .ok v) (fun _ _ => .ok v)
  /-- A field is taken, and the value of the record depends on it. -/
  | next {β : Type} {first : Nat} {checks : Checks}
    {named : β → List (String × Data) → Except Fault α}
    {listed : β → String → List Data → Except Fault α} (field : Field β)
    (hrest : ∀ b, Reads (first + 1) checks (named b) (listed b)) :
    Reads first (field.check :: checks)
      (fun fields => field.among fields >>= fun b => named b fields)
      (fun whole items => field.nth whole items first >>= fun b => listed b whole items)

namespace Reads

variable {first : Nat} {checks : Checks} {named : List (String × Data) → Except Fault α}
  {listed : String → List Data → Except Fault α} {fields fields' : List (String × Data)}
  {items : List Data} {whole : String} {v : α}

/-- A value that stands both under the name and at the position of a field is read as the same. -/
theorem among_eq_ok_iff_nth {β : Type} {field : Field β} {b : β}
    (hsame : fields.lookup field.name = items[first]?) :
    field.among fields = .ok b ↔ field.nth whole items first = .ok b := by
  rw [Field.among, Field.nth, hsame]
  cases items[first]? with
  | some d => exact Iff.rfl
  | none =>
    cases field.absent with
    | some b => exact Iff.rfl
    | none => exact ⟨nofun, nofun⟩

/-- Named values and a list that have the same values in the fields are read as the same. -/
theorem named_eq_ok_iff_listed (hreads : Reads first checks named listed)
    (hsame : ∀ i check, checks[i]? = some check → fields.lookup check.1 = items[first + i]?) :
    named fields = .ok v ↔ listed whole items = .ok v := by
  induction hreads with
  | done first v => exact Iff.rfl
  | @next β first checks named listed field hrest ih =>
    have hfield (b : β) : field.among fields = .ok b ↔ field.nth whole items first = .ok b :=
      among_eq_ok_iff_nth (hsame 0 field.check rfl)
    have hother (b : β) : named b fields = .ok v ↔ listed b whole items = .ok v :=
      ih b fun i check hcheck => by
        rw [hsame (i + 1) check hcheck, Nat.add_right_comm, Nat.add_assoc]
    simp only [bind_eq_ok_iff, hfield, hother]

/-- Only the values under the names of the fields count. -/
theorem named_congr (hreads : Reads first checks named listed)
    (hsame : ∀ check ∈ checks, fields.lookup check.1 = fields'.lookup check.1) :
    named fields = named fields' := by
  induction hreads with
  | done first v => rfl
  | next field hrest ih =>
    rw [List.forall_mem_cons] at hsame
    have hlookup : fields.lookup field.name = fields'.lookup field.name := hsame.1
    have hfield : field.among fields = field.among fields' := by
      rw [Field.among, Field.among, hlookup]
    simp only [hfield, ih _ hsame.2]

/-- There is no fault in the fields of named values that are read. -/
theorem fault?_eq_none (hreads : Reads first checks named listed) (hread : named fields = .ok v)
    {check : String × (Data → Option Fault)} (hcheck : check ∈ checks) {d : Data}
    (hlookup : fields.lookup check.1 = some d) : check.2 d = none := by
  induction hreads with
  | done first v => cases hcheck
  | next field hrest ih =>
    obtain ⟨b, hfield, hread⟩ := bind_eq_ok_iff.1 hread
    obtain rfl | hcheck := List.mem_cons.1 hcheck
    · have hvalue : field.read d = .ok b := by
        rwa [Field.among, show fields.lookup field.name = some d from hlookup] at hfield
      simp [Field.check, Field.fault?, hvalue]
    · exact ih b hread hcheck

end Reads

/-! ## Whole records -/

/-- Named values that can be read: no name stands twice, and no number under a name other than those
of the fields is too large to be used. -/
structure Usable (names : List String) (fields : List (String × Data)) : Prop where
  /-- No name stands twice. -/
  keys : (fields.map Prod.fst).Nodup
  /-- The values of unknown fields can be skipped. -/
  unknown : ∀ field ∈ fields, field.1 ∉ names → field.2.obstacle? = none

theorem Usable.perm {names : List String} {fields fields' : List (String × Data)}
    (h : Usable names fields) (hperm : fields'.Perm fields) : Usable names fields' where
  keys := (hperm.map Prod.fst).nodup_iff.2 h.keys
  unknown := fun field hfield => h.unknown field (hperm.subset hfield)

/-- Records with fields of these names can be written and read again, whatever their form. -/
structure RoundTrips (names : List String) (read : Data → Except Fault α) (write : α → Data) :
    Prop where
  /-- What is written is read as the same. -/
  written : ∀ v, read (write v) = .ok v
  /-- What is read from any data can be written and read again. -/
  reread : ∀ d v, read d = .ok v → read (write v) = .ok v
  /-- The order of named values and unknown names do not matter. -/
  keyed : ∀ fields fields', Usable names fields → Usable names fields' →
    (∀ name ∈ names, fields.lookup name = fields'.lookup name) →
    ReadAlike read (.record fields) (.record fields')
  /-- The list of the values, up to the last one that is there, is read like the named values. -/
  positional : ∀ fields items, Usable names fields → items.length ≤ names.length →
    (∀ (i : Nat) (name : String), names[i]? = some name → fields.lookup name = items[i]?) →
    ReadAlike read (.record fields) (.list items)

/-- Named values are read alike in any order. -/
theorem RoundTrips.readAlike_of_perm {names : List String} {read : Data → Except Fault α}
    {write : α → Data} {fields fields' : List (String × Data)} (h : RoundTrips names read write)
    (husable : Usable names fields) (hperm : fields'.Perm fields) :
    ReadAlike read (.record fields') (.record fields) :=
  h.keyed fields' fields (husable.perm hperm) husable
    fun name _ => lookup_perm hperm husable.keys name

namespace Reads

variable {rule : ListRule} {title : String} {checks : Checks}
  {named : List (String × Data) → Except Fault α} {listed : String → List Data → Except Fault α}
  {fields fields' : List (String × Data)} {items : List Data} {v : α}

/-- There is no fault in usable named values if their fields are read. -/
theorem firstFault?_eq_none (hreads : Reads 0 checks named listed)
    (husable : Usable (checks.map Prod.fst) fields) (hread : named fields = .ok v) :
    firstFault? checks fields = none := by
  rw [firstFault?, List.findSome?_eq_none_iff]
  rintro ⟨name, d⟩ hmem
  have hlookup := lookup_eq_some_of_mem husable.keys hmem
  cases hknown : checks.lookup name with
  | some fault? =>
    obtain ⟨before, after, hsplit, -⟩ := List.lookup_eq_some_iff.1 hknown
    have hcheck : (name, fault?) ∈ checks := by simp [hsplit]
    simpa [hknown] using hreads.fault?_eq_none hread hcheck hlookup
  | none =>
    have hunknown : name ∉ checks.map Prod.fst := by
      intro hmem
      obtain ⟨check, hcheck, rfl⟩ := List.mem_map.1 hmem
      simpa using List.lookup_eq_none_iff.1 hknown check hcheck
    simp [hknown, husable.unknown _ hmem hunknown]

/-- Usable named values are read exactly if their fields are. -/
theorem record_eq_ok_iff (hreads : Reads 0 checks named listed)
    (husable : Usable (checks.map Prod.fst) fields) :
    readRecord rule title checks named listed (.record fields) = .ok v ↔ named fields = .ok v := by
  rw [readRecord]
  cases hfault : firstFault? checks fields with
  | none => exact Iff.rfl
  | some fault =>
    -- a record with a fault in one of its fields is not read field by field either
    refine ⟨nofun, fun hread => ?_⟩
    rw [hreads.firstFault?_eq_none husable hread] at hfault
    cases hfault

/-- A list that does not go on after the last field is read exactly if its fields are. -/
theorem list_eq_ok_iff (hlength : items.length ≤ checks.length) :
    readRecord rule title checks named listed (.list items) = .ok v ↔
      listed s!"struct {title} with {checks.length} elements" items = .ok v := by
  have hfits : (rule.exact && checks.length < items.length) = false := by
    simp [Nat.not_lt.2 hlength]
  simp [readRecord, hfits, bind_eq_ok_iff]

/-- Records that are read field by field round-trip if their fields are read as they are written. -/
theorem roundTrips {names : List String} {write : α → Data} (hreads : Reads 0 checks named listed)
    (hnames : checks.map Prod.fst = names)
    (hwritten : ∀ v, ∃ fields, write v = .record fields ∧ Usable names fields ∧
      named fields = .ok v) :
    RoundTrips names (readRecord rule title checks named listed) write := by
  subst hnames
  have hread (v : α) : readRecord rule title checks named listed (write v) = .ok v := by
    obtain ⟨fields, hfields, husable, hnamed⟩ := hwritten v
    rw [hfields, hreads.record_eq_ok_iff husable, hnamed]
  refine ⟨hread, fun _ v _ => hread v, ?keyed, ?positional⟩
  case keyed =>
    intro fields fields' husable husable' hsame v
    rw [hreads.record_eq_ok_iff husable, hreads.record_eq_ok_iff husable',
      hreads.named_congr (List.forall_mem_map.1 hsame)]
  case positional =>
    intro fields items husable hlength hsame v
    rw [List.length_map] at hlength
    rw [hreads.record_eq_ok_iff husable, list_eq_ok_iff hlength]
    refine hreads.named_eq_ok_iff_listed fun i check hcheck => ?_
    rw [Nat.zero_add]
    exact hsame i check.1 (by rw [List.getElem?_map, hcheck, Option.map_some])

end Reads

end Sluice
