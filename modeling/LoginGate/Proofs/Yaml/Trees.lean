import LoginGate.Proofs.Json.Members
import LoginGate.Proofs.Yaml.Numbers

/-!
# Values as trees

A value tells events, and they build a tree without anchors and tags.  Texts may be written in any
style in which they are not taken for something else; then the tree of a value holds it:

    nodeValue a depth (treeOf style v) = pure v                              (nodeValue_treeOf)

for every value that is well formed.
-/

namespace LoginGate.Yaml

open LoginGate.Text LoginGate.Number

section

variable (style : List Char → ScalarStyle)

mutual

/-- The events of a value, its texts in a style. -/
def valueEvents : Json → List Event
  | .list items => .listStart {} :: itemEvents items ++ [.listEnd]
  | .object members => .mapStart {} :: memberEvents members ++ [.mapEnd]
  | .null => [.scalar {} "null".toList .plain]
  | .bool true => [.scalar {} "true".toList .plain]
  | .bool false => [.scalar {} "false".toList .plain]
  | .number n => [.scalar {} n.text .plain]
  | .text s => [.scalar {} s.toList (style s.toList)]

def itemEvents : List Json → List Event
  | [] => []
  | v :: rest => valueEvents v ++ itemEvents rest

def memberEvents : List (String × Json) → List Event
  | [] => []
  | (key, v) :: rest =>
    .scalar {} key.toList (style key.toList) :: valueEvents v ++ memberEvents rest

end

mutual

/-- The tree of a value. -/
def treeOf : Json → Node
  | .list items => .list none none (itemTrees items)
  | .object members => .map none none (memberTrees members)
  | .null => .scalar none none "null".toList .plain
  | .bool true => .scalar none none "true".toList .plain
  | .bool false => .scalar none none "false".toList .plain
  | .number n => .scalar none none n.text .plain
  | .text s => .scalar none none s.toList (style s.toList)

def itemTrees : List Json → List Node
  | [] => []
  | v :: rest => treeOf v :: itemTrees rest

def memberTrees : List (String × Json) → List (Node × Node)
  | [] => []
  | (key, v) :: rest =>
    (.scalar none none key.toList (style key.toList), treeOf v) :: memberTrees rest

end

end

namespace Document

variable {style : List Char → ScalarStyle}

/-- The events of a value build its tree. -/
def BuildsTree (style : List Char → ScalarStyle) (v : Json) : Prop :=
  ∀ (d : Draft) (rest : List Event), ∃ size,
    build d (valueEvents style v ++ rest) = build ({ d with size := size }.add (treeOf style v)) rest

variable {frames : List OpenNode} {root : Option Node} {names : List (List Char × Nat)}
  {nameCount size : Nat}

theorem buildsTree_scalar {v : Json} {text : List Char} {written : ScalarStyle}
    (hevents : valueEvents style v = [.scalar {} text written])
    (htree : treeOf style v = .scalar none none text written) : BuildsTree style v := fun d rest => by
  rw [hevents, htree]
  exact ⟨d.size + 1, rfl⟩

theorem build_items {items : List Json} (h : ∀ v ∈ items, BuildsTree style v) (done : List Node)
    (rest : List Event) :
    ∃ size', build ⟨.list none none done :: frames, root, names, nameCount, size⟩
        (itemEvents style items ++ rest) =
      build ⟨.list none none ((itemTrees style items).reverse ++ done) :: frames, root, names,
        nameCount, size'⟩ rest := by
  induction items generalizing done size with
  | nil => exact ⟨size, rfl⟩
  | cons v items ih =>
    obtain ⟨size₁, hv⟩ := h v List.mem_cons_self
      ⟨.list none none done :: frames, root, names, nameCount, size⟩ (itemEvents style items ++ rest)
    obtain ⟨size₂, hitems⟩ := @ih size₁ (fun w hw => h w (List.mem_cons_of_mem v hw))
      (treeOf style v :: done)
    refine ⟨size₂, ?_⟩
    rw [itemEvents, List.append_assoc, hv, itemTrees, List.reverse_cons, List.append_assoc]
    exact hitems

theorem buildsTree_list {items : List Json} (h : ∀ v ∈ items, BuildsTree style v) :
    BuildsTree style (.list items) := fun d rest => by
  obtain ⟨size, hitems⟩ := @build_items style d.frames d.root d.names d.nameCount (d.size + 1) items
    h [] (.listEnd :: rest)
  refine ⟨size + 1, ?_⟩
  have hevents : valueEvents style (.list items) ++ rest =
      .listStart {} :: (itemEvents style items ++ .listEnd :: rest) := by
    simp [valueEvents]
  have hclose : (OpenNode.list none none ((itemTrees style items).reverse ++ [])).close =
      treeOf style (.list items) := by
    rw [OpenNode.close, List.append_nil, List.reverse_reverse, treeOf]
  rw [hevents, ← hclose]
  exact hitems

theorem build_members {members : List (String × Json)} (h : ∀ m ∈ members, BuildsTree style m.2)
    (done : List (Node × Node)) (rest : List Event) :
    ∃ size', build ⟨.map none none done none :: frames, root, names, nameCount, size⟩
        (memberEvents style members ++ rest) =
      build ⟨.map none none ((memberTrees style members).reverse ++ done) none :: frames, root,
        names, nameCount, size'⟩ rest := by
  induction members generalizing done size with
  | nil => exact ⟨size, rfl⟩
  | cons member members ih =>
    obtain ⟨key, v⟩ := member
    let tree : Node := .scalar none none key.toList (style key.toList)
    obtain ⟨size₁, hv⟩ := h (key, v) List.mem_cons_self
      ⟨.map none none done (some tree) :: frames, root, names, nameCount, size + 1⟩
      (memberEvents style members ++ rest)
    obtain ⟨size₂, hmembers⟩ := @ih size₁ (fun m hm => h m (List.mem_cons_of_mem _ hm))
      ((tree, treeOf style v) :: done)
    refine ⟨size₂, ?_⟩
    rw [memberEvents, List.append_assoc, List.cons_append, memberTrees, List.reverse_cons,
      List.append_assoc]
    exact hv.trans hmembers

theorem buildsTree_object {members : List (String × Json)}
    (h : ∀ m ∈ members, BuildsTree style m.2) : BuildsTree style (.object members) :=
  fun d rest => by
    obtain ⟨size, hmembers⟩ := @build_members style d.frames d.root d.names d.nameCount (d.size + 1)
      members h [] (.mapEnd :: rest)
    refine ⟨size + 1, ?_⟩
    have hevents : valueEvents style (.object members) ++ rest =
        .mapStart {} :: (memberEvents style members ++ .mapEnd :: rest) := by
      simp [valueEvents]
    have hclose : (OpenNode.map none none ((memberTrees style members).reverse ++ []) none).close =
        treeOf style (.object members) := by
      rw [OpenNode.close, List.append_nil, List.reverse_reverse, treeOf]
    rw [hevents, ← hclose]
    exact hmembers

theorem buildsTree {depth : Nat} {v : Json} (hv : v.WellFormed depth) : BuildsTree style v := by
  induction hv with
  | null => exact buildsTree_scalar rfl rfl
  | bool b => cases b <;> exact buildsTree_scalar rfl rfl
  | number => exact buildsTree_scalar rfl rfl
  | text s => exact buildsTree_scalar rfl rfl
  | list _ ih => exact buildsTree_list ih
  | object _ _ ih => exact buildsTree_object ih

/-- The events of one document make a sound document. -/
theorem ofEvents_document {depth : Nat} {v : Json} (hv : v.WellFormed depth) :
    ∃ size, ofEvents (.documentStart :: valueEvents style v ++ [.documentEnd, .streamEnd]) =
      ⟨some (treeOf style v), size, true⟩ := by
  obtain ⟨size, hbuild⟩ := buildsTree hv {} [.documentEnd, .streamEnd]
  have hall : build {} (.documentStart :: (valueEvents style v ++ [.documentEnd, .streamEnd])) =
      (({ size := size } : Draft).add (treeOf style v), [.streamEnd], true) := hbuild
  refine ⟨size, ?_⟩
  rw [ofEvents, List.cons_append, hall]
  rfl

end Document

/-! ## What trees hold -/

section

variable (a : Aliases) (inner : Node → Read Json) {style : List Char → ScalarStyle}

theorem valueWith_plain {text : List Char} {v : Json} (inner : Option (Node → Read Json))
    (h : resolutionValue? text (resolve text) = some v) :
    valueWith a inner (.scalar none none text .plain) = pure v := by
  change (liftM (resolutionValue? text (resolve text)) : Read Json) = _
  rw [h]
  rfl

theorem valueWith_text (inner : Option (Node → Read Json)) (s : String)
    (hstyle : scalarValue? none s.toList (style s.toList) = some (.text (String.ofList s.toList))) :
    valueWith a inner (treeOf style (.text s)) = pure (.text s) := by
  change (liftM (scalarValue? none s.toList (style s.toList)) : Read Json) = _
  rw [hstyle, String.ofList_toList]
  rfl

theorem mapM_itemTrees {items : List Json} (h : ∀ v ∈ items, inner (treeOf style v) = pure v) :
    (itemTrees style items).mapM inner = pure items := by
  induction items with
  | nil => rfl
  | cons v items ih =>
    rw [itemTrees, List.mapM_cons, h v List.mem_cons_self, pure_bind,
      ih fun w hw => h w (List.mem_cons_of_mem v hw), pure_bind]

theorem addMember_tree {key : String} {v : Json} (h : inner (treeOf style v) = pure v)
    (done : KeyMap Json) :
    addMember a inner done (.scalar none none key.toList (style key.toList), treeOf style v) =
      pure (KeyMap.insert key v done) := by
  have hkey : nodeText a (.scalar none none key.toList (style key.toList)) =
      (pure key : Read String) := by
    change (pure (String.ofList key.toList) : Read String) = pure key
    rw [String.ofList_toList]
  rw [addMember, hkey, pure_bind, h, pure_bind]

theorem foldlM_memberTrees {members done : List (String × Json)}
    (h : ∀ m ∈ members, inner (treeOf style m.2) = pure m.2)
    (hascending : KeyMap.Ascending (done ++ members)) :
    (memberTrees style members).foldlM (addMember a inner) done = pure (done ++ members) := by
  induction members generalizing done with
  | nil => rw [memberTrees, List.foldlM_nil, List.append_nil]
  | cons member members ih =>
    obtain ⟨key, v⟩ := member
    rw [memberTrees, List.foldlM_cons, addMember_tree a inner (h _ List.mem_cons_self), pure_bind,
      hascending.insert_next]
    rw [List.append_cons done (key, v) members] at hascending ⊢
    exact ih (fun m hm => h m (List.mem_cons_of_mem _ hm)) hascending

end

theorem nodeValue_scalar (a : Aliases) {n : Node} {v : Json}
    (h : ∀ inner, valueWith a inner n = pure v) (depth : Nat) : nodeValue a depth n = pure v := by
  cases depth with
  | zero => exact h none
  | succ depth => exact h (some (nodeValue a depth))

/-- The tree of a value holds it. -/
theorem nodeValue_treeOf (a : Aliases) {style : List Char → ScalarStyle}
    (hstyle : ∀ s, scalarValue? none s (style s) = some (.text (String.ofList s))) {depth : Nat}
    {v : Json} (hv : v.WellFormed depth) : nodeValue a depth (treeOf style v) = pure v := by
  have hnull : resolve "null".toList = .null := by decide
  have htrue : resolve "true".toList = .bool true := by decide
  have hfalse : resolve "false".toList = .bool false := by decide
  induction hv with
  | null => exact nodeValue_scalar a (fun inner => valueWith_plain a inner (by rw [hnull]; rfl)) _
  | bool b =>
    cases b
    · exact nodeValue_scalar a (fun inner => valueWith_plain a inner (by rw [hfalse]; rfl)) _
    · exact nodeValue_scalar a (fun inner => valueWith_plain a inner (by rw [htrue]; rfl)) _
  | number h => exact nodeValue_scalar a (fun inner => valueWith_plain a inner (resolve_number h)) _
  | text s => exact nodeValue_scalar a (fun inner => valueWith_text a inner s (hstyle _)) _
  | @list depth items _ ih =>
    change (do
      let values ← (itemTrees style items).mapM (nodeValue a depth)
      return .list values : Read Json) = _
    rw [mapM_itemTrees _ ih, pure_bind]
  | @object depth members hascending _ ih =>
    change (do
      let values ← (memberTrees style members).foldlM (addMember a (nodeValue a depth)) []
      return .object values : Read Json) = _
    rw [@foldlM_memberTrees a _ style members [] ih hascending, pure_bind, List.nil_append]

end LoginGate.Yaml
