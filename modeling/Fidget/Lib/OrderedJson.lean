import Mathlib.Data.List.Basic

/-!
# JSON documents whose objects keep their order

The values of a JSON library that distinguishes unsigned, signed and floating-point numbers and
keeps the members of an object in the order in which they were inserted.

## Main results

- `find?_set_self`, `find?_set_of_ne`: a member that is set.
- `find?_modifyMember`, `elements_modifyElement`: a part that is changed.
- `Holds`: an object that has a member.
-/

namespace Fidget

/-- The two kinds of integers are told apart, as they are printed differently. -/
inductive Json where
  | null
  | boolean (value : Bool)
  | unsigned (value : UInt64)
  | integer (value : Int64)
  | float (value : Float)
  | string (value : String)
  | array (elements : List Json)
  | object (members : List (String × Json))

namespace Json

def isObject : Json → Bool
  | object _ => true
  | _ => false

def isArray : Json → Bool
  | array _ => true
  | _ => false

/-- The elements of an array, none of anything else. -/
def elements : Json → List Json
  | array elements => elements
  | _ => []

/-- The members of an object, none of anything else. -/
def members : Json → List (String × Json)
  | object members => members
  | _ => []

/-- The member of an object under a key. It is an error nowhere to look for one. -/
def find? (value : Json) (key : String) : Option Json :=
  (value.members.find? fun entry => entry.1 == key).map (·.2)

/-- An object with the member replaced, or appended where there is none. -/
def set (owner : Json) (key : String) (value : Json) : Json :=
  match owner with
  | object members =>
    if members.any fun entry => entry.1 == key then
      object (members.map fun entry => if entry.1 == key then (entry.1, value) else entry)
    else object (members ++ [(key, value)])
  | _ => owner

/-- An array with one element changed. -/
def modifyElement (value : Json) (index : Nat) (f : Json → Json) : Json :=
  match value with
  | array elements => array (elements.modify index f)
  | _ => value

/-- An object with one member changed, if it is there. -/
def modifyMember (value : Json) (key : String) (f : Json → Json) : Json :=
  match value with
  | object members =>
    object (members.map fun entry => if entry.1 == key then (entry.1, f entry.2) else entry)
  | _ => value

/-! ### What is found after a change

One lemma for each change and each way of looking at a value. -/

/-- `set` on an object. -/
theorem set_object (members : List (String × Json)) (key : String) (value : Json) :
    (object members).set key value =
      if (members.any fun entry => entry.1 == key) then
        object (members.map fun entry => if entry.1 == key then (entry.1, value) else entry)
      else object (members ++ [(key, value)]) := rfl

theorem find?_object (members : List (String × Json)) (key : String) :
    (object members).find? key = (members.find? fun entry => entry.1 == key).map (·.2) := rfl

/-- The entry under a key, after the entries under a key are changed. -/
theorem find?_map_entries (members : List (String × Json)) (key other : String)
    (f : Json → Json) :
    (object (members.map fun entry =>
      if entry.1 == key then (entry.1, f entry.2) else entry)).find? other =
      if other = key then ((object members).find? other).map f
      else (object members).find? other := by
  simp only [find?_object]
  induction members with
  | nil => split <;> rfl
  | cons entry members ih =>
      rw [List.map_cons, List.find?_cons, List.find?_cons]
      -- A change leaves the key of its entry alone.
      have hkey : (if entry.1 == key then (entry.1, f entry.2) else entry).1 = entry.1 := by
        split <;> rfl
      rw [hkey]
      by_cases hentry : (entry.1 == other) = true
      · rw [hentry]
        have hother : entry.1 = other := beq_iff_eq.mp hentry
        by_cases hsame : other = key
        · rw [if_pos hsame, hother, if_pos (beq_iff_eq.mpr hsame)]
          rfl
        · rw [if_neg hsame, hother, if_neg fun h => hsame (beq_iff_eq.mp h)]
      · rw [Bool.eq_false_iff.mpr hentry]
        exact ih

/-- Other members stay as they are. -/
theorem find?_modifyMember (value : Json) (key other : String) (f : Json → Json) :
    (value.modifyMember key f).find? other =
      if other = key then (value.find? other).map f else value.find? other := by
  cases value with
  | object members => exact find?_map_entries members key other f
  | _ =>
      simp only [modifyMember, find?, members, List.find?_nil, Option.map_none]
      split <;> rfl

/-- An object has what was set. -/
theorem find?_set (members : List (String × Json)) (key other : String) (value : Json) :
    ((object members).set key value).find? other =
      if other = key then some value else (object members).find? other := by
  rw [set_object]
  split
  -- the key is there, and its value is replaced in place
  next hpresent =>
    rw [find?_map_entries members key other fun _ => value]
    split
    next hsame =>
      obtain ⟨entry, hentry, hkey⟩ := List.any_eq_true.mp hpresent
      have hfound : (members.find? fun entry => entry.1 == key).isSome :=
        List.find?_isSome.mpr ⟨entry, hentry, hkey⟩
      obtain ⟨found, hfound⟩ := Option.isSome_iff_exists.mp hfound
      rw [hsame, find?_object, hfound]
      rfl
    · rfl
  -- the key is new and goes to the end
  next habsent =>
    simp only [find?_object, List.find?_append]
    split
    next hsame =>
      have hnone : (members.find? fun entry => entry.1 == key) = none := by
        rw [List.find?_eq_none]
        exact fun entry hentry hkey => habsent (List.any_eq_true.mpr ⟨entry, hentry, hkey⟩)
      rw [hsame, hnone, Option.none_or]
      simp
    next hother =>
      have hlast : ([(key, value)].find? fun entry => entry.1 == other) = none := by
        simp [Ne.symm hother]
      rw [hlast, Option.or_none]

/-- A member that was set is found. -/
theorem find?_set_self {owner : Json} (h : owner.isObject = true) (key : String) (value : Json) :
    (owner.set key value).find? key = some value := by
  cases owner with
  | object members => rw [find?_set, if_pos rfl]
  | _ => cases h

/-- Other members are found as before. -/
theorem find?_set_of_ne (owner : Json) {key other : String} (h : other ≠ key) (value : Json) :
    (owner.set key value).find? other = owner.find? other := by
  cases owner with
  | object members => rw [find?_set, if_neg h]
  | _ => rfl

theorem isObject_set (owner : Json) (key : String) (value : Json) :
    (owner.set key value).isObject = owner.isObject := by
  cases owner with
  | object members => rw [set_object]; split <;> rfl
  | _ => rfl

theorem isObject_modifyMember (owner : Json) (key : String) (f : Json → Json) :
    (owner.modifyMember key f).isObject = owner.isObject := by
  cases owner <;> rfl

theorem isArray_modifyElement (value : Json) (index : Nat) (f : Json → Json) :
    (value.modifyElement index f).isArray = value.isArray := by
  cases value <;> rfl

theorem elements_modifyElement (value : Json) (index : Nat) (f : Json → Json) :
    (value.modifyElement index f).elements = value.elements.modify index f := by
  cases value with
  | array elements => rfl
  | _ => exact List.modify_nil f index |>.symm

/-! ### Changes one after the other

Members keep their order: a change happens in place, and a new member goes to the end. -/

/-- Of two changes of one member, the second counts. -/
theorem modifyMember_modifyMember (value : Json) (key : String) (f g : Json → Json) :
    (value.modifyMember key f).modifyMember key g = value.modifyMember key (g ∘ f) := by
  cases value with
  | object members =>
      simp only [modifyMember, List.map_map]
      congr 1
      apply List.map_congr_left
      intro entry _
      simp only [Function.comp_apply]
      by_cases hkey : (entry.1 == key) = true
      · simp only [if_pos hkey]
      · simp only [if_neg hkey]
  | _ => rfl

/-- Two changes of one element. -/
theorem modifyElement_modifyElement (value : Json) (index : Nat) (f g : Json → Json) :
    (value.modifyElement index f).modifyElement index g = value.modifyElement index (g ∘ f) := by
  cases value with
  | array elements =>
      simp only [modifyElement]
      rw [List.modify_modify_eq]
  | _ => rfl

section Members

variable {entries : List (String × Json)} {key : String}

/-- A member that is there is replaced in its place. -/
theorem set_of_any (h : (entries.any fun entry => entry.1 == key) = true) (value : Json) :
    (object entries).set key value =
      object (entries.map fun entry => if entry.1 == key then (entry.1, value) else entry) :=
  if_pos h

/-- A new member goes to the end. -/
theorem set_of_not_any (h : ¬ (entries.any fun entry => entry.1 == key) = true) (value : Json) :
    (object entries).set key value = object (entries ++ [(key, value)]) :=
  if_neg h

theorem any_of_mem {entry : String × Json} (h : entry ∈ entries) (hkey : entry.1 = key) :
    (entries.any fun entry => entry.1 == key) = true :=
  List.any_eq_true.mpr ⟨entry, h, beq_iff_eq.mpr hkey⟩

end Members

/-- Every member under the key has the value, and there is one. -/
def Holds (owner : Json) (key : String) (value : Json) : Prop :=
  ∃ entries, owner = object entries ∧ (entries.any fun entry => entry.1 == key) = true ∧
    ∀ entry ∈ entries, entry.1 = key → entry.2 = value

/-- A member that was set is held. -/
theorem holds_set {owner : Json} (h : owner.isObject = true) (key : String) (value : Json) :
    Holds (owner.set key value) key value := by
  cases owner with
  | object entries =>
      by_cases hany : (entries.any fun entry => entry.1 == key) = true
      · rw [set_of_any hany]
        obtain ⟨entry, hentry, hkey⟩ := List.any_eq_true.mp hany
        refine ⟨_, rfl, any_of_mem (List.mem_map.mpr ⟨entry, hentry, if_pos hkey⟩)
          (beq_iff_eq.mp hkey), ?_⟩
        intro entry hentry hkey
        obtain ⟨original, -, rfl⟩ := List.mem_map.mp hentry
        split at hkey
        next hsame => rw [if_pos hsame]
        next hother => exact absurd (beq_iff_eq.mpr hkey) hother
      · rw [set_of_not_any hany]
        refine ⟨_, rfl, any_of_mem (List.mem_append_right _ List.mem_cons_self) rfl, ?_⟩
        intro entry hentry hkey
        rcases List.mem_append.mp hentry with hentry | hentry
        · exact absurd (any_of_mem hentry hkey) hany
        · rw [List.mem_singleton.mp hentry]
  | _ => cases h

/-- Setting another member does not lose it. -/
theorem Holds.set {owner : Json} {key other : String} {value : Json}
    (h : Holds owner key value) (hne : other ≠ key) (value' : Json) :
    Holds (owner.set other value') key value := by
  obtain ⟨entries, rfl, hany, hvalues⟩ := h
  obtain ⟨found, hfound, hfoundKey⟩ := List.any_eq_true.mp hany
  by_cases hother : (entries.any fun entry => entry.1 == other) = true
  · rw [set_of_any hother]
    refine ⟨_, rfl, any_of_mem (List.mem_map.mpr ⟨found, hfound, if_neg ?_⟩)
      (beq_iff_eq.mp hfoundKey), ?_⟩
    · intro hsame
      exact hne ((beq_iff_eq.mp hsame).symm.trans (beq_iff_eq.mp hfoundKey))
    · intro entry hentry hkey
      obtain ⟨original, horiginal, rfl⟩ := List.mem_map.mp hentry
      split at hkey
      next hsame => exact absurd ((beq_iff_eq.mp hsame).symm.trans hkey) hne
      next hsame =>
        rw [if_neg hsame]
        exact hvalues original horiginal hkey
  · rw [set_of_not_any hother]
    refine ⟨_, rfl, any_of_mem (List.mem_append_left _ hfound) (beq_iff_eq.mp hfoundKey), ?_⟩
    intro entry hentry hkey
    rcases List.mem_append.mp hentry with hentry | hentry
    · exact hvalues entry hentry hkey
    · obtain rfl := List.mem_singleton.mp hentry
      exact absurd hkey hne

/-- What replaces every member under a key replaces nothing where it holds. -/
theorem map_of_values {entries : List (String × Json)} {key : String} {value : Json}
    (h : ∀ entry ∈ entries, entry.1 = key → entry.2 = value) :
    (entries.map fun entry => if entry.1 == key then (entry.1, value) else entry) = entries := by
  refine (List.map_congr_left ?_).trans (List.map_id _)
  intro entry hentry
  by_cases hkey : (entry.1 == key) = true
  · rw [if_pos hkey, ← h entry hentry (beq_iff_eq.mp hkey)]
    rfl
  · rw [if_neg hkey]
    rfl

/-- To set what holds is no change. -/
theorem Holds.set_eq {owner : Json} {key : String} {value : Json} (h : Holds owner key value) :
    owner.set key value = owner := by
  obtain ⟨entries, rfl, hany, hvalues⟩ := h
  rw [set_of_any hany, map_of_values hvalues]

/-- What is set twice has the second value. -/
theorem set_set (owner : Json) (key : String) (value value' : Json) :
    (owner.set key value).set key value' = owner.set key value' := by
  cases owner with
  | object entries =>
      by_cases hany : (entries.any fun entry => entry.1 == key) = true
      · obtain ⟨found, hfound, hkey⟩ := List.any_eq_true.mp hany
        rw [set_of_any hany, set_of_any hany, set_of_any, List.map_map]
        · congr 1
          apply List.map_congr_left
          intro entry _
          simp only [Function.comp_apply]
          by_cases hkey : (entry.1 == key) = true
          · simp only [if_pos hkey]
          · simp only [if_neg hkey]
        · exact any_of_mem (List.mem_map.mpr ⟨found, hfound, if_pos hkey⟩) (beq_iff_eq.mp hkey)
      · have hrest := @map_of_values entries key value'
          (fun entry hentry hkey => absurd (any_of_mem hentry hkey) hany)
        rw [set_of_not_any hany, set_of_not_any hany, set_of_any, List.map_append, hrest]
        · simp
        · exact any_of_mem (List.mem_append_right _ List.mem_cons_self) rfl
  | _ => rfl

/-- What can be said of some member of an object after a change. -/
theorem any_members_set {owner : Json} (h : owner.isObject = true) (key : String) (value : Json)
    (test : String × Json → Bool) :
    (owner.set key value).members.any test =
      ((owner.members.any fun entry => entry.1 ≠ key && test entry) || test (key, value)) := by
  cases owner with
  | object entries =>
      by_cases hany : (entries.any fun entry => entry.1 == key) = true
      · -- the key is there, and its value is replaced in place
        rw [set_of_any hany, Bool.eq_iff_iff, Bool.or_eq_true]
        simp only [members, List.any_eq_true, Bool.and_eq_true, decide_eq_true_eq]
        constructor
        · rintro ⟨entry, hentry, htest⟩
          obtain ⟨original, horiginal, rfl⟩ := List.mem_map.mp hentry
          split at htest
          next hkey =>
            rw [beq_iff_eq.mp hkey] at htest
            exact .inr htest
          next hkey => exact .inl ⟨original, horiginal, fun heq => hkey (beq_iff_eq.mpr heq), htest⟩
        · rintro (⟨entry, hentry, hkey, htest⟩ | htest)
          · refine ⟨entry, List.mem_map.mpr ⟨entry, hentry, if_neg ?_⟩, htest⟩
            simpa using hkey
          · obtain ⟨entry, hentry, hkey⟩ := List.any_eq_true.mp hany
            refine ⟨(entry.1, value), List.mem_map.mpr ⟨entry, hentry, if_pos hkey⟩, ?_⟩
            rw [beq_iff_eq.mp hkey]
            exact htest
      · -- the key is new and goes to the end
        have hother : (entries.any fun entry => entry.1 ≠ key && test entry) = entries.any test := by
          rw [← List.any_filter, List.filter_eq_self.mpr]
          intro entry hentry
          exact decide_eq_true fun hkey => hany (any_of_mem hentry hkey)
        rw [set_of_not_any hany]
        show (entries ++ [(key, value)]).any test = (entries.any _ || _)
        rw [hother, List.any_append, List.any_cons, List.any_nil, Bool.or_false]
  | _ => cases h

/-- Only an object has members. -/
theorem isObject_of_find? {value found : Json} {key : String} (h : value.find? key = some found) :
    value.isObject = true := by
  cases value with
  | object members => rfl
  | _ => cases h

/-- Only an array has elements. -/
theorem eq_array_of_getElem? {value element : Json} {index : Nat}
    (h : value.elements[index]? = some element) : ∃ elements, value = array elements := by
  cases value with
  | array elements => exact ⟨elements, rfl⟩
  | _ => cases h

end Json

end Fidget
