import ScientificResourceLab.Python.JsonRoundTrip
import ScientificResourceLab.Steps.Fallible

/-!
# The order of members

A dict remembers the order in which its keys were stored, and a document
written with sorted keys forgets it.  `Json.sorted` orders the members of
every object by key, and a value with distinct keys is read back as its
sorted form (`parseText_dumpText_sorted`).  Neither a lookup nor the text of
an object depends on the order of the members.
-/

namespace ScientificResourceLab.Python

mutual

/-- The value with the members of every object in the order of their keys. -/
def Json.sorted : Json → Json
  | .arr items => .arr (sortedItems items)
  | .obj members => .obj ((sortedMembers members).insertionSort KeyLe)
  | .null => .null
  | .bool value => .bool value
  | .int value => .int value
  | .float value => .float value
  | .str value => .str value

def sortedItems : List Json → List Json
  | [] => []
  | item :: rest => item.sorted :: sortedItems rest

def sortedMembers : List (Text × Json) → List (Text × Json)
  | [] => []
  | (key, value) :: rest => (key, value.sorted) :: sortedMembers rest

end

mutual

/-- Distinct keys at every level. -/
def Json.Distinct : Json → Prop
  | .null => True
  | .bool _ => True
  | .int _ => True
  | .float _ => True
  | .str _ => True
  | .arr items => DistinctItems items
  | .obj members =>
      DistinctMembers members ∧ (members.map Prod.fst).Nodup

/-- Every item has distinct keys. -/
def DistinctItems : List Json → Prop
  | [] => True
  | item :: rest => item.Distinct ∧ DistinctItems rest

/-- Every value of a member has distinct keys. -/
def DistinctMembers : List (Text × Json) → Prop
  | [] => True
  | (_, value) :: rest => value.Distinct ∧ DistinctMembers rest

end

/-! ## Keys -/

instance {α : Type*} : Std.Total (KeyLe (α := α)) where
  total left right := le_total left.1 right.1

instance {α : Type*} : IsTrans (Text × α) KeyLe where
  trans _ _ _ first second := le_trans (α := Text) first second

theorem sortedMembers_keys (members : List (Text × Json)) :
    (sortedMembers members).map Prod.fst = members.map Prod.fst := by
  induction members with
  | nil => rfl
  | cons member rest induction =>
      rw [sortedMembers, List.map_cons, List.map_cons, induction]

/-- Distinct keys in order are strictly increasing. -/
theorem increasing_insertionSort
    {members : List (Text × Json)}
    (distinct : (members.map Prod.fst).Nodup) :
    ((members.insertionSort KeyLe).map Prod.fst).Pairwise (· < ·) := by
  have ordered := List.pairwise_insertionSort KeyLe members
  have same := (List.perm_insertionSort KeyLe members).map Prod.fst
  have stillDistinct := same.nodup_iff.mpr distinct
  rw [List.Nodup, List.pairwise_map] at stillDistinct
  rw [List.pairwise_map]
  exact (ordered.and stillDistinct).imp fun both =>
    lt_of_le_of_ne both.1 both.2

theorem plainMembers_iff {members : List (Text × Json)} :
    PlainMembers members ↔ ∀ member ∈ members, member.2.Plain := by
  induction members with
  | nil => simp [PlainMembers]
  | cons member rest induction =>
      simp [PlainMembers, induction]

mutual

theorem plain_sorted
    (value : Json) (distinct : value.Distinct) : value.sorted.Plain := by
  cases value with
  | null => trivial
  | bool value => trivial
  | int value => trivial
  | float value => trivial
  | str value => trivial
  | arr items => exact plain_sortedItems items distinct
  | obj members =>
      obtain ⟨values, keys⟩ := distinct
      refine ⟨plainMembers_iff.mpr fun member isMember => ?_, ?_⟩
      · have inner := plainMembers_iff.mp
          (plain_sortedMembers members values)
        exact inner member ((List.mem_insertionSort KeyLe).mp isMember)
      · refine increasing_insertionSort ?_
        rw [sortedMembers_keys]
        exact keys

theorem plain_sortedItems
    (items : List Json) (distinct : DistinctItems items) :
    PlainItems (sortedItems items) := by
  cases items with
  | nil => trivial
  | cons item rest =>
      exact ⟨plain_sorted item distinct.1,
        plain_sortedItems rest distinct.2⟩

theorem plain_sortedMembers
    (members : List (Text × Json)) (distinct : DistinctMembers members) :
    PlainMembers (sortedMembers members) := by
  cases members with
  | nil => trivial
  | cons member rest =>
      cases member with
      | mk key value =>
          exact ⟨plain_sorted value distinct.1,
            plain_sortedMembers rest distinct.2⟩

end

/-! ## Writing -/

section

variable (escape : CodePoint → Text)

theorem dumpMembersWith_orderedInsert
    (member : Text × Json) (members : List (Text × Json)) :
    dumpMembersWith escape (members.orderedInsert KeyLe member) =
      (dumpTextWith escape member.2).bind fun head =>
        (dumpMembersWith escape members).map fun tail =>
          tail.orderedInsert KeyLe (member.1, head) := by
  induction members with
  | nil =>
      cases dumped : dumpTextWith escape member.2 <;> simp [dumpMembersWith_cons, dumped]
  | cons first rest induction =>
      by_cases before : KeyLe member first
      · rw [List.orderedInsert_cons_of_le _ _ before]
        simp only [dumpMembersWith_cons]
        cases dumpTextWith escape member.2 <;> cases dumpTextWith escape first.2 <;>
          cases dumpMembersWith escape rest <;>
          simp [KeyLe, show member.1 ≤ first.1 from before]
      · rw [List.orderedInsert_of_not_le _ _ before]
        simp only [dumpMembersWith_cons, induction]
        cases dumpTextWith escape member.2 <;> cases dumpTextWith escape first.2 <;>
          cases dumpMembersWith escape rest <;>
          simp [KeyLe, show ¬ member.1 ≤ first.1 from before]

theorem dumpMembersWith_insertionSort (members : List (Text × Json)) :
    dumpMembersWith escape (members.insertionSort KeyLe) =
      (dumpMembersWith escape members).map (List.insertionSort KeyLe) := by
  induction members with
  | nil => rfl
  | cons member rest induction =>
      rw [List.insertionSort_cons, dumpMembersWith_orderedInsert, induction]
      cases dumped : dumpTextWith escape member.2 <;>
        cases tail : dumpMembersWith escape rest <;>
        simp [dumpMembersWith_cons, dumped, tail]

mutual

/-- Sorting does not change the text of a value. -/
theorem dumpTextWith_sorted (value : Json) :
    dumpTextWith escape value.sorted = dumpTextWith escape value := by
  cases value with
  | null => rfl
  | bool value => rfl
  | int value => rfl
  | float value => rfl
  | str value => rfl
  | arr items =>
      rw [Json.sorted, dumpTextWith_arr, dumpTextWith_arr, dumpItemsWith_sortedItems items]
  | obj members =>
      rw [Json.sorted, dumpTextWith_obj, dumpTextWith_obj, dumpMembersWith_insertionSort,
        dumpMembersWith_sortedMembers members]
      cases dumpMembersWith escape members with
      | none => rfl
      | some texts =>
          have twice : (texts.insertionSort KeyLe).insertionSort KeyLe =
              texts.insertionSort KeyLe :=
            (List.pairwise_insertionSort KeyLe texts).insertionSort_eq
          simp [twice]

theorem dumpItemsWith_sortedItems (items : List Json) :
    dumpItemsWith escape (sortedItems items) = dumpItemsWith escape items := by
  cases items with
  | nil => rfl
  | cons item rest =>
      rw [sortedItems, dumpItemsWith_cons, dumpItemsWith_cons, dumpTextWith_sorted item,
        dumpItemsWith_sortedItems rest]

theorem dumpMembersWith_sortedMembers (members : List (Text × Json)) :
    dumpMembersWith escape (sortedMembers members) = dumpMembersWith escape members := by
  cases members with
  | nil => rfl
  | cons member rest =>
      cases member with
      | mk key value =>
          rw [sortedMembers, dumpMembersWith_cons, dumpMembersWith_cons,
            dumpTextWith_sorted value, dumpMembersWith_sortedMembers rest]

end

end

/-- Sorting does not change the text of a value. -/
theorem dumpText_sorted (value : Json) :
    dumpText value.sorted = dumpText value := by
  rw [← dumpTextWith_escapePoint, ← dumpTextWith_escapePoint,
    dumpTextWith_sorted]

/-- A value with distinct keys is read back in the order of its keys. -/
theorem parseText_dumpText_sorted
    {value : Json} (distinct : value.Distinct) {written : Text}
    (dumps : dumpText value = some written) {final : Text}
    (newline : final = [] ∨ final = [codePoint '\n'])
    (allowConstants : Bool) :
    parseText allowConstants (written ++ final) = .ok value.sorted :=
  parseText_dumpText allowConstants (plain_sorted value distinct)
    (by rw [dumpText_sorted, dumps]) newline

/-! ## Permuted members -/

theorem Json.lookup_eq_some_iff
    {key : Text} {value : Json} {members : List (Text × Json)}
    (distinct : (members.map Prod.fst).Nodup) :
    Json.lookup key members = some value ↔ (key, value) ∈ members := by
  induction members with
  | nil => simp [Json.lookup]
  | cons member rest induction =>
      obtain ⟨name, stored⟩ := member
      rw [List.map_cons, List.nodup_cons] at distinct
      rw [Json.lookup, List.mem_cons, Prod.mk.injEq]
      split_ifs with same
      · subst same
        have absent : (name, value) ∉ rest := fun member =>
          distinct.1 (List.mem_map.mpr ⟨_, member, rfl⟩)
        simp [absent, eq_comm]
      · rw [induction distinct.2]
        simp [Ne.symm same]

/-- What a lookup finds is a member. -/
theorem Json.mem_of_lookup
    {key : Text} {value : Json} {members : List (Text × Json)}
    (found : Json.lookup key members = some value) :
    (key, value) ∈ members := by
  induction members with
  | nil => cases found
  | cons member rest induction =>
      obtain ⟨name, stored⟩ := member
      rw [Json.lookup] at found
      split_ifs at found with same
      · cases found
        rw [same]
        exact List.mem_cons_self
      · exact List.mem_cons_of_mem _ (induction found)

/-- A lookup does not depend on the order of the members. -/
theorem Json.lookup_perm
    {left right : List (Text × Json)} (same : left.Perm right)
    (distinct : (left.map Prod.fst).Nodup) (key : Text) :
    Json.lookup key left = Json.lookup key right := by
  have otherDistinct := (same.map Prod.fst).nodup_iff.mp distinct
  apply Option.ext
  intro value
  rw [Json.lookup_eq_some_iff distinct,
    Json.lookup_eq_some_iff otherDistinct, same.mem_iff]

theorem sortedMembers_eq_map (members : List (Text × Json)) :
    sortedMembers members =
      members.map fun member => (member.1, member.2.sorted) := by
  induction members with
  | nil => rfl
  | cons member rest induction =>
      rw [sortedMembers, List.map_cons, induction]

theorem insertionSort_perm
    {left right : List (Text × Json)} (same : left.Perm right)
    (distinct : (left.map Prod.fst).Nodup) :
    left.insertionSort KeyLe = right.insertionSort KeyLe := by
  have otherDistinct := (same.map Prod.fst).nodup_iff.mp distinct
  have leftIncreasing := increasing_insertionSort distinct
  have rightIncreasing := increasing_insertionSort otherDistinct
  rw [List.pairwise_map] at leftIncreasing rightIncreasing
  refine List.Perm.eq_of_pairwise ?_ leftIncreasing rightIncreasing
    (((List.perm_insertionSort KeyLe left).trans same).trans
      (List.perm_insertionSort KeyLe right).symm)
  intro first second _ _ less greater
  exact absurd greater (lt_asymm less)

/-- Nor does the text of an object. -/
theorem dumpText_perm
    {left right : List (Text × Json)} (same : left.Perm right)
    (distinct : (left.map Prod.fst).Nodup) :
    dumpText (.obj left) = dumpText (.obj right) := by
  have keys : ((sortedMembers left).map Prod.fst).Nodup := by
    rw [sortedMembers_keys]
    exact distinct
  have sorted : (sortedMembers left).Perm (sortedMembers right) := by
    rw [sortedMembers_eq_map, sortedMembers_eq_map]
    exact same.map _
  rw [← dumpText_sorted, ← dumpText_sorted (.obj right), Json.sorted,
    Json.sorted, insertionSort_perm sorted keys]

/-! ## Values up to the order of members -/

theorem lookup_sortedMembers
    (key : Text) (members : List (Text × Json)) :
    Json.lookup key (sortedMembers members) =
      (Json.lookup key members).map Json.sorted := by
  induction members with
  | nil => rfl
  | cons member rest induction =>
      obtain ⟨name, value⟩ := member
      rw [sortedMembers, Json.lookup, Json.lookup]
      split_ifs
      · rfl
      · exact induction

theorem insert_keys
    (key : Text) (value : Json) (members : List (Text × Json)) :
    (Json.insert key value members).map Prod.fst =
      if key ∈ members.map Prod.fst then members.map Prod.fst
      else members.map Prod.fst ++ [key] := by
  induction members with
  | nil => rfl
  | cons member rest induction =>
      obtain ⟨name, old⟩ := member
      by_cases same : name = key
      · subst same
        simp [Json.insert]
      · by_cases later : key ∈ rest.map Prod.fst
        · simp_all [Json.insert, Ne.symm same]
        · simp_all [Json.insert, Ne.symm same]

theorem foldl_insert_nodup
    (members stored : List (Text × Json))
    (distinct : (stored.map Prod.fst).Nodup) :
    ((members.foldl
      (fun stored member => Json.insert member.1 member.2 stored)
      stored).map Prod.fst).Nodup := by
  induction members generalizing stored with
  | nil => exact distinct
  | cons member rest induction =>
      refine induction _ ?_
      rw [insert_keys]
      split_ifs with present
      · exact distinct
      · refine List.nodup_append.mpr
          ⟨distinct, List.nodup_singleton _, ?_⟩
        intro name isStored other isLast same
        rw [same, List.mem_singleton.mp isLast] at isStored
        exact present isStored

/-- A dict has distinct keys. -/
theorem ofMembers_nodup (members : List (Text × Json)) :
    ((Json.ofMembers members).map Prod.fst).Nodup :=
  foldl_insert_nodup members [] List.nodup_nil

theorem lookup_insert
    (key other : Text) (value : Json) (members : List (Text × Json)) :
    Json.lookup other (Json.insert key value members) =
      if other = key then some value else Json.lookup other members := by
  induction members with
  | nil =>
      by_cases same : other = key
      · subst same
        simp [Json.insert, Json.lookup]
      · simp [Json.insert, Json.lookup, same, Ne.symm same]
  | cons member rest induction =>
      obtain ⟨name, old⟩ := member
      rw [Json.insert]
      by_cases isKey : name = key
      · subst isKey
        rw [if_pos rfl, Json.lookup, Json.lookup]
        by_cases same : other = name
        · simp [same]
        · simp [same, Ne.symm same]
      · rw [if_neg isKey, Json.lookup, Json.lookup, induction]
        by_cases isName : name = other
        · subst isName
          simp [isKey]
        · simp [isName]

theorem lookup_foldl_insert
    {members stored : List (Text × Json)} {key : Text} {value : Json}
    (found : Json.lookup key (members.foldl
      (fun stored member => Json.insert member.1 member.2 stored)
      stored) = some value) :
    (key, value) ∈ members ∨ Json.lookup key stored = some value := by
  induction members generalizing stored with
  | nil => exact .inr found
  | cons member rest induction =>
      rcases induction found with inRest | inStored
      · exact .inl (List.mem_cons_of_mem _ inRest)
      · rw [lookup_insert] at inStored
        split_ifs at inStored with same
        · rw [same, ← Option.some.inj inStored]
          exact .inl List.mem_cons_self
        · exact .inr inStored

/-- A stored value is one of those that were put under its key. -/
theorem mem_of_lookup_ofMembers
    {members : List (Text × Json)} {key : Text} {value : Json}
    (found : Json.lookup key (Json.ofMembers members) = some value) :
    (key, value) ∈ members := by
  rcases lookup_foldl_insert found with member | inEmpty
  · exact member
  · cases inEmpty

theorem mem_keys_foldl_insert
    {members stored : List (Text × Json)} {key : Text} :
    key ∈ (members.foldl
      (fun stored member => Json.insert member.1 member.2 stored)
      stored).map Prod.fst ↔
      key ∈ members.map Prod.fst ∨ key ∈ stored.map Prod.fst := by
  induction members generalizing stored with
  | nil => simp
  | cons member rest induction =>
      rw [List.foldl_cons, induction, insert_keys, List.map_cons,
        List.mem_cons]
      split_ifs with present
      · constructor
        · rintro (inRest | inStored)
          · exact .inl (.inr inRest)
          · exact .inr inStored
        · rintro ((rfl | inRest) | inStored)
          · exact .inr present
          · exact .inl inRest
          · exact .inr inStored
      · rw [List.mem_append, List.mem_singleton]
        tauto

/-- The keys of a dict are those under which something was put. -/
theorem mem_keys_ofMembers
    {members : List (Text × Json)} {key : Text} :
    key ∈ (Json.ofMembers members).map Prod.fst ↔
      key ∈ members.map Prod.fst := by
  rw [Json.ofMembers, mem_keys_foldl_insert]
  simp

/-- A lookup finds something under every key. -/
theorem lookup_of_mem_keys
    {members : List (Text × Json)} {key : Text}
    (present : key ∈ members.map Prod.fst) :
    ∃ value, Json.lookup key members = some value := by
  induction members with
  | nil => cases present
  | cons member rest induction =>
      obtain ⟨name, value⟩ := member
      rw [Json.lookup]
      split_ifs with same
      · exact ⟨value, rfl⟩
      · rcases List.mem_cons.mp present with rfl | inRest
        · exact absurd rfl same
        · exact induction inRest

theorem finishNumber_not_obj
    {negative : Bool} {digits source rest : Text}
    {members : List (Text × Json)} :
    finishNumber negative digits source ≠ .ok (.obj members, rest) := by
  intro parsed
  simp only [finishNumber] at parsed
  split_ifs at parsed <;> cases parsed

theorem parseScalar_not_obj
    {allowConstants : Bool} {source rest : Text}
    {members : List (Text × Json)} :
    parseScalar allowConstants source ≠ .ok (.obj members, rest) := by
  intro parsed
  have magnitude (negative : Bool) (source : Text) :
      parseMagnitude negative source ≠ .ok (.obj members, rest) := by
    intro parsed
    cases source with
    | nil => cases parsed
    | cons digit tail =>
        rw [parseMagnitude] at parsed
        split_ifs at parsed
        · exact finishNumber_not_obj parsed
        · exact finishNumber_not_obj parsed
  have constant (value : Float64) (tail : Text) :
      parseConstant allowConstants value tail ≠
        .ok (.obj members, rest) := by
    intro parsed
    rw [parseConstant] at parsed
    split_ifs at parsed
    cases parsed
  rw [parseScalar.eq_def] at parsed
  repeat' split at parsed
  all_goals first
    | cases parsed
    | exact constant _ _ parsed
    | exact magnitude _ _ parsed

/-- A decoded object has distinct keys. -/
theorem parseValue_obj_nodup
    {allowConstants : Bool} {fuel : Nat} {source rest : Text}
    {members : List (Text × Json)}
    (parsed : parseValue allowConstants fuel source =
      .ok (.obj members, rest)) :
    (members.map Prod.fst).Nodup := by
  cases fuel with
  | zero => cases parsed
  | succ fuel =>
      cases source with
      | nil => cases parsed
      | cons point tail =>
          rw [parseValue] at parsed
          split_ifs at parsed
          · simp only [Steps.bind_eq_ok_iff] at parsed
            obtain ⟨_, _, returned⟩ := parsed
            cases returned
          · split at parsed
            · cases parsed
            · split_ifs at parsed
              · cases parsed
              · simp only [Steps.bind_eq_ok_iff] at parsed
                obtain ⟨_, _, returned⟩ := parsed
                cases returned
          · split at parsed
            · cases parsed
            · split_ifs at parsed
              · cases parsed
                exact List.nodup_nil
              · simp only [Steps.bind_eq_ok_iff] at parsed
                obtain ⟨_, _, returned⟩ := parsed
                cases returned
                exact ofMembers_nodup _
          · exact absurd parsed parseScalar_not_obj

theorem parseText_obj_nodup
    {allowConstants : Bool} {source : Text}
    {members : List (Text × Json)}
    (parsed : parseText allowConstants source = .ok (.obj members)) :
    (members.map Prod.fst).Nodup := by
  rw [parseText] at parsed
  split_ifs at parsed
  simp only [Steps.bind_eq_ok_iff] at parsed
  obtain ⟨⟨value, rest⟩, isValue, returned⟩ := parsed
  simp only at returned
  split_ifs at returned
  cases returned
  exact parseValue_obj_nodup isValue

/-! ## Members in the order of their keys -/

/-- The members of a dict in the order in which they are read back. -/
def stored (members : List (Text × Json)) : List (Text × Json) :=
  (sortedMembers members).insertionSort KeyLe

theorem sorted_obj (members : List (Text × Json)) :
    Json.sorted (.obj members) = .obj (stored members) := by
  rw [Json.sorted, stored]

theorem optionalText_sorted (value : Option Text) :
    (optionalText value).sorted = optionalText value := by
  cases value <;> rfl

theorem perm_stored (members : List (Text × Json)) :
    (stored members).Perm (sortedMembers members) :=
  List.perm_insertionSort KeyLe _

theorem keys_stored (members : List (Text × Json)) :
    ((stored members).map Prod.fst).Perm (members.map Prod.fst) := by
  have permuted := (perm_stored members).map Prod.fst
  rwa [sortedMembers_keys] at permuted

/-- A lookup among the members that are read back. -/
theorem lookup_stored
    {members : List (Text × Json)} (distinct : (members.map Prod.fst).Nodup)
    (key : Text) :
    Json.lookup key (stored members) =
      (Json.lookup key members).map Json.sorted := by
  have keys : ((stored members).map Prod.fst).Nodup :=
    (keys_stored members).nodup_iff.mpr distinct
  rw [Json.lookup_perm (perm_stored members) keys, lookup_sortedMembers]

theorem sortedItems_eq_map (items : List Json) :
    sortedItems items = items.map Json.sorted := by
  induction items with
  | nil => rfl
  | cons item rest induction =>
      rw [sortedItems, List.map_cons, induction]

theorem distinctItems_iff {items : List Json} :
    DistinctItems items ↔ ∀ item ∈ items, item.Distinct := by
  induction items with
  | nil => simp [DistinctItems]
  | cons item rest induction => simp [DistinctItems, induction]

end ScientificResourceLab.Python
