import Mathlib.Data.Finset.Union
import Mathlib.Data.String.Basic
import SpotSdk.Foundations.OrderedMap

/-!
# Resource hierarchies

A hierarchy is built from a tree of resources. It has a copy of the hierarchy of every
strict descendant under its name, merged upwards from the hierarchies of the children,
and the names of the leaves. The names of a tree are meant to be distinct: the maps and
sets keep the first entry of each name.
-/

namespace SpotSdk.Client

open SpotSdk.Foundations

/-- The message `ResourceTree`. -/
inductive ResourceTree
  | node (resource : String) (subResources : List ResourceTree)

namespace ResourceTree

def resource : ResourceTree → String
  | node resource _ => resource

def subResources : ResourceTree → List ResourceTree
  | node _ subResources => subResources

mutual

/-- The tree and all trees below it. -/
def subtrees : ResourceTree → List ResourceTree
  | node resource subResources => node resource subResources :: subtreesOf subResources

def subtreesOf : List ResourceTree → List ResourceTree
  | [] => []
  | tree :: rest => subtrees tree ++ subtreesOf rest

end

/-- The strict descendants of the root. -/
def descendants (tree : ResourceTree) : List ResourceTree :=
  subtreesOf tree.subResources

/-- The resource names of a tree, with repetitions. -/
def names (tree : ResourceTree) : List String :=
  tree.subtrees.map resource

/-- Induction over a tree and its children. -/
theorem inductionOn {motive : ResourceTree → Prop}
    (node : ∀ resource subResources, (∀ sub ∈ subResources, motive sub) →
      motive (.node resource subResources)) : ∀ tree, motive tree
  | .node resource subResources =>
      node resource subResources fun sub inside =>
        have : sizeOf sub < sizeOf subResources := List.sizeOf_lt_of_mem inside
        inductionOn node sub

end ResourceTree

/-- `ResourceHierarchy`: the tree, the sub-hierarchies by name and the names of the
leaves. -/
inductive ResourceHierarchy
  | mk (resourceTree : ResourceTree) (subHierarchies : List (String × ResourceHierarchy))
      (leafResources : Finset String)

/-- The two members that the constructor fills. -/
structure HierarchyMembers where
  subHierarchies : List (String × ResourceHierarchy) := []
  leafResources : Finset String := ∅

namespace ResourceHierarchy

def resourceTree : ResourceHierarchy → ResourceTree
  | mk resourceTree _ _ => resourceTree

def subHierarchies : ResourceHierarchy → List (String × ResourceHierarchy)
  | mk _ subHierarchies _ => subHierarchies

def leafResources : ResourceHierarchy → Finset String
  | mk _ _ leafResources => leafResources

end ResourceHierarchy

/-- One round of the constructor's loop, on the hierarchy of a child. The entry that is
merged is the one in the map. -/
def HierarchyMembers.merge (members : HierarchyMembers) (resource : String)
    (sub : ResourceHierarchy) : HierarchyMembers :=
  let emplaced := OrderedMap.emplace resource sub members.subHierarchies
  let newSub := (OrderedMap.lookup resource emplaced).getD sub
  { subHierarchies := OrderedMap.emplaceAll newSub.subHierarchies emplaced
    leafResources := members.leafResources ∪ newSub.leafResources }

namespace ResourceHierarchy

mutual

/-- The constructor from a tree. -/
def ofTree : ResourceTree → ResourceHierarchy
  | .node resource subResources =>
      let members := mergeSubs subResources
        { leafResources := if subResources.length = 0 then {resource} else ∅ }
      mk (.node resource subResources) members.subHierarchies members.leafResources

/-- The constructor's loop over the children. -/
def mergeSubs : List ResourceTree → HierarchyMembers → HierarchyMembers
  | [], members => members
  | subTree :: rest, members =>
      mergeSubs rest (members.merge subTree.resource (ofTree subTree))

end

variable (hierarchy : ResourceHierarchy)

def hasResource (resource : String) : Bool :=
  resource = hierarchy.resourceTree.resource ||
    (OrderedMap.lookup resource hierarchy.subHierarchies).isSome

/-- `GetHierarchy`, absent where the map's `at` throws. -/
def getHierarchy (resource : String) : Option ResourceHierarchy :=
  if resource = hierarchy.resourceTree.resource then some hierarchy
  else OrderedMap.lookup resource hierarchy.subHierarchies

end ResourceHierarchy

open ResourceTree ResourceHierarchy

/-- A resource is the one of a tree without children. -/
def IsLeafOf (trees : List ResourceTree) (resource : String) : Prop :=
  ∃ tree ∈ trees, tree.subResources = [] ∧ tree.resource = resource

/-- The members are those of the hierarchies of a list of trees, put together. -/
structure HierarchyMembers.Hold (members : HierarchyMembers) (trees : List ResourceTree) :
    Prop where
  sorted : OrderedMap.Sorted members.subHierarchies
  lookup : ∀ resource, OrderedMap.lookup resource members.subHierarchies =
    (trees.find? (·.resource = resource)).map ofTree
  leaves : ∀ resource, resource ∈ members.leafResources ↔ IsLeafOf trees resource

/-- A hierarchy has its tree, the hierarchies of all strict descendants, and all leaves. -/
structure ResourceHierarchy.Represents (hierarchy : ResourceHierarchy)
    (tree : ResourceTree) : Prop where
  own : hierarchy.resourceTree = tree
  sorted : OrderedMap.Sorted hierarchy.subHierarchies
  lookup : ∀ resource, OrderedMap.lookup resource hierarchy.subHierarchies =
    (tree.descendants.find? (·.resource = resource)).map ofTree
  leaves : ∀ resource, resource ∈ hierarchy.leafResources ↔ IsLeafOf tree.subtrees resource

/-! ## The constructor -/

section Build

variable {tree sub : ResourceTree} {subs done : List ResourceTree}
  {members : HierarchyMembers} {resource : String}

theorem subtrees_eq (tree : ResourceTree) : tree.subtrees = tree :: tree.descendants := by
  cases tree
  rfl

theorem isLeafOf_append (trees trees' : List ResourceTree) (resource : String) :
    IsLeafOf (trees ++ trees') resource ↔ IsLeafOf trees resource ∨ IsLeafOf trees' resource := by
  simp only [IsLeafOf, List.mem_append, or_and_right, exists_or]

theorem find?_eq_none_of_fresh (fresh : resource ∉ done.map ResourceTree.resource) :
    done.find? (·.resource = resource) = none := by
  rw [List.find?_eq_none]
  intro tree inside named
  exact fresh (List.mem_map.mpr ⟨tree, inside, of_decide_eq_true named⟩)

/-- A child with a new name brings its own hierarchy and those below it. -/
theorem HierarchyMembers.Hold.merge (hold : members.Hold done)
    (represents : (ofTree sub).Represents sub)
    (fresh : sub.resource ∉ done.map ResourceTree.resource) :
    (members.merge sub.resource (ofTree sub)).Hold (done ++ sub.subtrees) := by
  have absent : OrderedMap.lookup sub.resource members.subHierarchies = none := by
    rw [hold.lookup, find?_eq_none_of_fresh fresh]
    rfl
  have stored := OrderedMap.lookup_emplace sub.resource (ofTree sub) hold.sorted
  have newSub : (OrderedMap.lookup sub.resource (OrderedMap.emplace sub.resource (ofTree sub)
      members.subHierarchies)).getD (ofTree sub) = ofTree sub := by
    rw [stored, absent, if_pos rfl]
    rfl
  constructor
  case sorted => exact OrderedMap.sorted_emplaceAll (OrderedMap.sorted_emplace hold.sorted) _
  case lookup =>
    intro resource
    simp only [HierarchyMembers.merge, newSub]
    rw [OrderedMap.lookup_emplaceAll (OrderedMap.sorted_emplace hold.sorted), stored,
      hold.lookup, represents.lookup, List.find?_append, Option.map_or, Option.or_assoc,
      subtrees_eq, List.find?_cons]
    by_cases here : resource = sub.resource
    · simp [here]
    · simp [here, Ne.symm here]
  case leaves =>
    intro resource
    simp only [HierarchyMembers.merge, newSub]
    rw [Finset.mem_union, hold.leaves, represents.leaves, isLeafOf_append]

/-- The loop puts the hierarchies of all children and of everything below them together. -/
theorem hold_mergeSubs (hold : members.Hold done)
    (distinct : ((done ++ subtreesOf subs).map ResourceTree.resource).Nodup)
    (each : ∀ sub ∈ subs, (ofTree sub).Represents sub) :
    (mergeSubs subs members).Hold (done ++ subtreesOf subs) := by
  induction subs generalizing members done with
  | nil =>
      rw [mergeSubs, subtreesOf, List.append_nil]
      exact hold
  | cons sub rest ih =>
      rw [subtreesOf, ← List.append_assoc] at distinct ⊢
      rw [mergeSubs]
      refine ih (hold.merge (each sub List.mem_cons_self) ?_) distinct
        fun sub' later => each sub' (List.mem_cons_of_mem _ later)
      have before : ((done ++ sub.subtrees).map ResourceTree.resource).Nodup := by
        rw [List.map_append] at distinct
        exact (List.nodup_append.mp distinct).1
      rw [List.map_append, subtrees_eq, List.map_cons] at before
      intro inside
      exact (List.nodup_append.mp before).2.2 _ inside _ List.mem_cons_self rfl

theorem names_descendants (distinct : tree.names.Nodup) :
    (tree.descendants.map ResourceTree.resource).Nodup := by
  rw [names, subtrees_eq, List.map_cons] at distinct
  exact (List.nodup_cons.mp distinct).2

/-- The names of every child are distinct when those of the tree are. -/
theorem names_child (distinct : ((subtreesOf subs).map ResourceTree.resource).Nodup)
    (inside : sub ∈ subs) : sub.names.Nodup := by
  induction subs with
  | nil => cases inside
  | cons first rest ih =>
      rw [subtreesOf, List.map_append] at distinct
      obtain ⟨one, others, _⟩ := List.nodup_append.mp distinct
      cases inside with
      | head => exact one
      | tail _ later => exact ih others later

/-- The hierarchy of a tree with distinct names represents it. -/
theorem represents_ofTree (distinct : tree.names.Nodup) : (ofTree tree).Represents tree := by
  induction tree using ResourceTree.inductionOn with
  | node resource subs ih =>
      have below := names_descendants distinct
      have each : ∀ sub ∈ subs, (ofTree sub).Represents sub := fun sub inside =>
        ih sub inside (names_child below inside)
      have empty : HierarchyMembers.Hold { leafResources := ∅ } [] :=
        { sorted := OrderedMap.sorted_nil, lookup := fun _ => rfl,
          leaves := fun _ => by simp [IsLeafOf] }
      have hold := hold_mergeSubs empty below each
      rw [List.nil_append] at hold
      cases subs with
      | nil =>
          constructor
          case own => rfl
          case sorted => exact hold.sorted
          case lookup => exact hold.lookup
          case leaves =>
            intro name
            change name ∈ ({resource} : Finset String) ↔ _
            rw [Finset.mem_singleton]
            constructor
            · rintro rfl
              exact ⟨_, List.mem_cons_self, rfl, rfl⟩
            · rintro ⟨leaf, inside, _, rfl⟩
              rw [List.mem_singleton.mp inside]
              rfl
      | cons first rest =>
          constructor
          case own => rfl
          case sorted => exact hold.sorted
          case lookup => exact hold.lookup
          case leaves =>
            intro name
            refine (hold.leaves name).trans ?_
            -- A root with children is no leaf itself.
            constructor
            · rintro ⟨leaf, inside, named⟩
              exact ⟨leaf, List.mem_cons_of_mem _ inside, named⟩
            · rintro ⟨leaf, inside, childless, named⟩
              cases inside with
              | head => cases childless
              | tail _ later => exact ⟨leaf, later, childless, named⟩

end Build

/-! ## What a hierarchy promises -/

/-- What the accessors return on the hierarchy of a tree. -/
structure FaithfulTo (tree : ResourceTree) (hierarchy : ResourceHierarchy) : Prop where
  hasResource : ∀ resource, hierarchy.hasResource resource = true ↔ resource ∈ tree.names
  subtree : ∀ sub ∈ tree.subtrees, ∃ found,
    hierarchy.getHierarchy sub.resource = some found ∧ found.resourceTree = sub ∧
      found = ofTree sub
  unique : ∀ resource ∈ tree.names, ∃! sub, sub ∈ tree.subtrees ∧ sub.resource = resource
  iteration : (hierarchy.subHierarchies.map fun entry => entry.2.resourceTree).Perm
    tree.descendants
  keys : ∀ entry ∈ hierarchy.subHierarchies, entry.1 = entry.2.resourceTree.resource
  once : (OrderedMap.keys hierarchy.subHierarchies).Nodup
  leaves : ∀ resource, resource ∈ hierarchy.leafResources ↔
    ∃ node ∈ tree.subtrees, node.subResources = [] ∧ node.resource = resource

section Faithful

variable {tree sub : ResourceTree} {trees : List ResourceTree}
  {hierarchy : ResourceHierarchy} {resource : String}

@[simp] theorem resourceTree_ofTree (tree : ResourceTree) :
    (ofTree tree).resourceTree = tree := by
  cases tree
  rfl

/-- Among distinct names the search ends at the tree that was asked for. -/
theorem find?_of_mem (distinct : (trees.map ResourceTree.resource).Nodup)
    (inside : sub ∈ trees) : trees.find? (·.resource = sub.resource) = some sub := by
  induction trees with
  | nil => cases inside
  | cons first rest ih =>
      obtain ⟨fresh, later⟩ := List.nodup_cons.mp distinct
      rw [List.find?_cons]
      cases inside with
      | head => simp
      | tail _ inside =>
          have other : first.resource ≠ sub.resource := by
            intro same
            exact fresh (same ▸ List.mem_map_of_mem inside)
          simp [other, ih later inside]

theorem mem_names_iff :
    resource ∈ tree.names ↔ resource = tree.resource ∨
      ∃ sub ∈ tree.descendants, sub.resource = resource := by
  rw [names, subtrees_eq, List.map_cons, List.mem_cons, List.mem_map]

theorem ResourceHierarchy.Represents.hasResource_iff (represents : hierarchy.Represents tree) :
    hierarchy.hasResource resource = true ↔ resource ∈ tree.names := by
  simp only [hasResource, represents.own, represents.lookup, mem_names_iff, Bool.or_eq_true,
    decide_eq_true_eq, Option.isSome_map, List.find?_isSome]

/-- The entries of the map are the strict descendants with their hierarchies. -/
theorem ResourceHierarchy.Represents.mem_iff (represents : hierarchy.Represents tree)
    (distinct : tree.names.Nodup) {found : ResourceHierarchy} :
    (resource, found) ∈ hierarchy.subHierarchies ↔
      ∃ sub ∈ tree.descendants, sub.resource = resource ∧ ofTree sub = found := by
  rw [OrderedMap.mem_iff_lookup represents.sorted, represents.lookup, Option.map_eq_some_iff]
  constructor
  · rintro ⟨sub, search, same⟩
    have named : sub.resource = resource := by simpa using List.find?_some search
    exact ⟨sub, List.mem_of_find?_eq_some search, named, same⟩
  · rintro ⟨sub, inside, rfl, same⟩
    exact ⟨sub, find?_of_mem (names_descendants distinct) inside, same⟩

theorem ResourceHierarchy.Represents.getHierarchy_eq
    (represents : (ofTree tree).Represents tree) (distinct : tree.names.Nodup)
    (inside : sub ∈ tree.subtrees) :
    (ofTree tree).getHierarchy sub.resource = some (ofTree sub) := by
  rw [getHierarchy, represents.own]
  rw [subtrees_eq, List.mem_cons] at inside
  rcases inside with rfl | below
  · exact if_pos rfl
  · have other : sub.resource ≠ tree.resource := by
      rw [names, subtrees_eq, List.map_cons] at distinct
      intro same
      exact (List.nodup_cons.mp distinct).1 (same ▸ List.mem_map_of_mem below)
    rw [if_neg other, represents.lookup, find?_of_mem (names_descendants distinct) below]
    rfl

/-- The hierarchy of a tree with distinct names is faithful to it. -/
theorem faithfulTo_ofTree (distinct : tree.names.Nodup) :
    FaithfulTo tree (ofTree tree) := by
  have represents := represents_ofTree distinct
  have once : (OrderedMap.keys (ofTree tree).subHierarchies).Nodup :=
    represents.sorted.imp ne_of_lt
  have keys : ∀ entry ∈ (ofTree tree).subHierarchies,
      entry.1 = entry.2.resourceTree.resource := by
    rintro ⟨resource, found⟩ inside
    obtain ⟨sub, _, named, rfl⟩ := (represents.mem_iff distinct).mp inside
    rw [resourceTree_ofTree, named]
  constructor
  case hasResource => exact fun resource => represents.hasResource_iff
  case subtree =>
    intro sub inside
    exact ⟨ofTree sub, represents.getHierarchy_eq distinct inside, resourceTree_ofTree sub, rfl⟩
  case unique =>
    intro resource inside
    obtain ⟨sub, within, named⟩ := List.mem_map.mp inside
    refine ⟨sub, ⟨within, named⟩, fun sub' h => ?_⟩
    exact List.inj_on_of_nodup_map distinct h.1 within (h.2.trans named.symm)
  case iteration =>
    have trees : ((ofTree tree).subHierarchies.map fun entry => entry.2.resourceTree).Nodup := by
      apply List.Nodup.of_map ResourceTree.resource
      rw [List.map_map]
      have same : (ofTree tree).subHierarchies.map
          (ResourceTree.resource ∘ fun entry => entry.2.resourceTree) =
            OrderedMap.keys (ofTree tree).subHierarchies :=
        List.map_congr_left fun entry inside => (keys entry inside).symm
      rw [same]
      exact once
    apply (List.perm_ext_iff_of_nodup trees
      (List.Nodup.of_map _ (names_descendants distinct))).mpr
    intro sub
    rw [List.mem_map]
    constructor
    · rintro ⟨⟨resource, found⟩, inside, rfl⟩
      obtain ⟨sub, below, _, rfl⟩ := (represents.mem_iff distinct).mp inside
      rw [resourceTree_ofTree]
      exact below
    · intro below
      exact ⟨(sub.resource, ofTree sub),
        (represents.mem_iff distinct).mpr ⟨sub, below, rfl, rfl⟩, resourceTree_ofTree sub⟩
  case keys => exact keys
  case once => exact once
  case leaves => exact represents.leaves

end Faithful

/-- `LeaseHierarchyRequirements`. -/
inductive LeaseHierarchyRequirements
  | baseOnly
  | armAndGripper
  deriving DecidableEq, Repr

/-- `build_default_resource`, on an empty tree. -/
def buildDefaultResource (useArm : LeaseHierarchyRequirements) : ResourceTree :=
  .node "body" ([.node "mobility" [], .node "fan" []] ++
    if useArm = .armAndGripper then
      [.node "full-arm" [.node "arm" [], .node "gripper" []]]
    else [])

theorem names_buildDefaultResource (useArm : LeaseHierarchyRequirements) :
    (buildDefaultResource useArm).names.Nodup := by
  cases useArm <;> decide

theorem faithfulTo_buildDefaultResource :
    FaithfulTo (buildDefaultResource .armAndGripper)
      (ofTree (buildDefaultResource .armAndGripper)) :=
  faithfulTo_ofTree (names_buildDefaultResource .armAndGripper)

end SpotSdk.Client
