import Dataflow.Proofs.Interface
import Dataflow.Proofs.Node.Tree

set_option autoImplicit false

/-! # Trees read back

A tree is written node by node, each with a tag that says what it is, and is read with fuel for
as deep as the written value nests. The fuel is enough for what was written
(`Node.depth_toJson_lt`), so every tree is read (`Node.ofJson?_toJson`), up to the default values
on the interfaces of its nodes.
-/

namespace Dataflow

/-! ## Connections and mappings -/

@[simp] theorem Endpoint.ofJson?_toJson (e : Endpoint) : ofJson? e.toJson = some e := by
  rw [ofJson?, toJson, Json.fields?_object (by simp)]
  simp [Json.required, List.lookup_cons]

@[simp] theorem Connection.ofJson?_toJson (c : Connection) : ofJson? c.toJson = some c := by
  rw [ofJson?, toJson, Json.fields?_object (by simp)]
  simp [Json.required, List.lookup_cons]

@[simp] theorem Mapping.ofJson?_toJson (m : Mapping) : ofJson? m.toJson = some m := by
  rw [ofJson?, toJson, Json.fields?_object (by simp)]
  simp [Json.required, List.lookup_cons]

/-! ## Nodes -/

/-- What is read of a written component node. -/
def ComponentNode.received (c : ComponentNode) : ComponentNode :=
  { c with interface := c.interface.received }

/-- What is read of a written workflow frame. -/
def WorkflowFrame.received (w : WorkflowFrame) : WorkflowFrame :=
  { w with interface := w.interface.received }

namespace Node

mutual

/-- What is read of a written tree. -/
def received : Node → Node
  | component c => .component c.received
  | workflow w children => .workflow w.received (receivedAll children)

/-- What is read of several written trees. -/
def receivedAll : List Node → List Node
  | [] => []
  | n :: ns => received n :: receivedAll ns

end

theorem receivedAll_eq_map (l : List Node) : receivedAll l = l.map received := by
  induction l with
  | nil => rfl
  | cons n rest ih => rw [receivedAll, ih, List.map_cons]

theorem toJsonAll_eq_map (l : List Node) : toJsonAll l = l.map toJson := by
  induction l with
  | nil => rfl
  | cons n rest ih => rw [toJsonAll, ih, List.map_cons]

/-- The members of a written workflow node. -/
def frameMembers (w : WorkflowFrame) (children : List Node) : List (String × Json) :=
  [("id", .ofUuid w.id), ("name", .text w.name), ("workflow_id", .ofUuid w.workflow),
    ("interface", w.interface.toJson), ("children", .array (toJsonAll children)),
    ("connections", .ofList Connection.toJson w.connections),
    ("inputs", .ofList Mapping.toJson w.inputs), ("outputs", .ofList Mapping.toJson w.outputs)]

theorem toJson_workflow (w : WorkflowFrame) (children : List Node) :
    (workflow w children).toJson =
      .object (("node_kind", .text "workflow") :: frameMembers w children) := by
  rw [toJson]
  rfl

/-! ## Fuel -/

/-- A written child nests less deep than what was written around it. -/
theorem depth_toJson_lt {w : WorkflowFrame} {children : List Node} {n : Node}
    (hn : n ∈ children) : n.toJson.depth < (workflow w children).toJson.depth := by
  have hitem : n.toJson.depth ≤ Json.depthItems (toJsonAll children) := by
    rw [toJsonAll_eq_map]
    exact Json.depthItems_le_iff.1 (Nat.le_refl _) _ (List.mem_map_of_mem hn)
  have hmember : ("children", Json.array (toJsonAll children)) ∈
      ("node_kind", Json.text "workflow") :: frameMembers w children := by
    simp [frameMembers]
  have hchildren := Json.depthMembers_le_iff.1 (Nat.le_refl _) _ hmember
  rw [toJson_workflow, Json.depth]
  rw [Json.depth] at hchildren
  omega

/-! ## Reading -/

theorem componentOfJson?_members (c : ComponentNode) :
    componentOfJson? (.object (componentMembers c)) = some c.received := by
  rw [componentOfJson?, componentMembers, Json.fields?_object (by simp)]
  simp [Json.required, List.lookup_cons, Interface.read?_toJson, ComponentNode.received]

/-- The fields of a written workflow node. -/
def frameFields (w : WorkflowFrame) (children : List Node) : Json.Fields := fun name =>
  if workflowFieldNames.contains name then (frameMembers w children).lookup name else none

theorem fields?_frameMembers (w : WorkflowFrame) (children : List Node) :
    (Json.object (frameMembers w children)).fields? workflowFieldNames =
      some (frameFields w children) :=
  Json.fields?_object (by simp [frameMembers])

theorem frameOfFields?_members (w : WorkflowFrame) (children : List Node) :
    frameOfFields? (frameFields w children) = some w.received := by
  have hconnections := Json.list?_ofList_self Connection.ofJson?_toJson w.connections
  have hmappings := Json.list?_ofList_self Mapping.ofJson?_toJson
  simp [frameOfFields?, frameFields, frameMembers, workflowFieldNames, Json.required,
    Json.optional, List.lookup_cons, Interface.read?_toJson, hconnections, hmappings,
    WorkflowFrame.received]

/-- **A tree is read from what it is written as**, with fuel for as deep as that nests. -/
theorem read?_toJson {fuel : Nat} {form : Json.Form} {n : Node} (h : n.toJson.depth < fuel) :
    read? fuel form n.toJson = some n.received := by
  induction fuel generalizing form n with
  | zero => omega
  | succ fuel ih =>
      cases n with
      | component c =>
          rw [read?, toJson, Json.tagged?_object (by simp) (by simp [componentMembers])]
          simp [componentOfJson?_members, received]
      | workflow w children =>
          -- the children are read with the fuel that is left, and need no more
          have hchildren : Json.list? (read? fuel .gathered)
              (.ofList toJson children) = some (children.map received) :=
            Json.list?_ofList fun n hn =>
              ih (Nat.lt_of_lt_of_le (depth_toJson_lt hn) (Nat.le_of_lt_succ h))
          have hfield : frameFields w children "children" = some (.ofList toJson children) := by
            rw [Json.ofList, ← toJsonAll_eq_map]
            simp [frameFields, frameMembers, workflowFieldNames, List.lookup_cons]
          rw [toJson_workflow, read?,
            Json.tagged?_object (by simp) (by simp [frameMembers])]
          simp [fields?_frameMembers, frameOfFields?_members, Json.required, hfield, hchildren,
            received, receivedAll_eq_map]

theorem ofJson?_toJson (n : Node) : ofJson? n.toJson = some n.received :=
  read?_toJson (Nat.lt_succ_self _)

theorem interface_received (n : Node) : n.received.interface = n.interface.received := by
  cases n <;> rfl

mutual

theorem leaves_received : (n : Node) → n.received.leaves = n.leaves.map ComponentNode.received
  | component _ => rfl
  | workflow _ children => by
      rw [received, leaves, leaves, leavesAll_receivedAll children]

theorem leavesAll_receivedAll :
    (l : List Node) → leavesAll (receivedAll l) = (leavesAll l).map ComponentNode.received
  | [] => rfl
  | n :: rest => by
      rw [receivedAll, leavesAll, leavesAll, leaves_received n, leavesAll_receivedAll rest,
        List.map_append]

end

/-- The component nodes of a tree that was read are read one by one. -/
theorem componentNodes_received (n : Node) :
    n.received.componentNodes = n.componentNodes.map ComponentNode.received := by
  rw [componentNodes_eq_leaves, componentNodes_eq_leaves, leaves_received]

/-! ## Trees that are read as they are -/

theorem received_component_eq_self_iff {c : ComponentNode} :
    (component c).received = component c ↔ c.interface.received = c.interface := by
  obtain ⟨id, name, revision, codeModule, function, interface⟩ := c
  simp only [received, ComponentNode.received, component.injEq, ComponentNode.mk.injEq, true_and]

theorem received_workflow_eq_self_iff {w : WorkflowFrame} {children : List Node} :
    (workflow w children).received = workflow w children ↔
      w.interface.received = w.interface ∧ ∀ n ∈ children, n.received = n := by
  obtain ⟨id, name, revision, interface, connections, inputs, outputs⟩ := w
  simp only [received, WorkflowFrame.received, workflow.injEq, WorkflowFrame.mk.injEq, true_and,
    and_true, receivedAll_eq_map, map_eq_self_iff]

theorem received_interface_of_inside {m n : Node} (h : Inside m n) (hn : n.received = n) :
    m.interface.received = m.interface := by
  induction h with
  | here =>
      cases m with
      | component c => exact received_component_eq_self_iff.1 hn
      | workflow w children => exact (received_workflow_eq_self_iff.1 hn).1
  | deeper hmem _ ih => exact ih ((received_workflow_eq_self_iff.1 hn).2 _ hmem)

theorem received_eq_self :
    (n : Node) → (∀ m, Inside m n → m.interface.received = m.interface) → n.received = n
  | component _, h => received_component_eq_self_iff.2 (h _ .here)
  | workflow _ children, h =>
      received_workflow_eq_self_iff.2 ⟨h _ .here, fun n hn =>
        received_eq_self n fun m hm => h m (.deeper hn hm)⟩

/-- A tree is read as it is exactly if every interface in it is. -/
theorem received_eq_self_iff {n : Node} :
    n.received = n ↔ ∀ m, Inside m n → m.interface.received = m.interface :=
  ⟨fun hn _ h => received_interface_of_inside h hn, received_eq_self n⟩

end Node

end Dataflow
