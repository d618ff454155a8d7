import ClusterTopology.Topology
import ClusterTopology.Settings.Basic

/-!
The file a topology is written to: one record line per instance. A vnode or a
node is set off by a comment line before it and by empty lines after it. The
grouped layout has one section per kind, headed by a comment that explains the
fields.
-/

namespace ClusterTopology

/-- What stands between the fields of a record line. -/
def fieldSeparator : String := ", "

namespace Instance

/-- The fields of a record line before the children. -/
def ownFields : Instance → List String
  | container it =>
    [Kind.container.name, it.id, it.cpu.limit.text, it.cpu.used.text, it.cpu.request.text,
      it.mem.limit.text, it.mem.used.text, it.mem.request.text, it.qps.limit.text,
      it.qps.used.text]
  | pod it => [Kind.pod.name, it.id]
  | vnode it => [Kind.vnode.name, it.id, it.cpu.text, it.mem.text, it.address.text]
  | node it => [Kind.node.name, it.id, it.cpu.text, it.mem.text, it.address.text]

/-- The field of the children, for the kinds that have it. It is empty when
there are none. -/
def childField : Instance → List String
  | container _ => []
  | pod it => [fieldSeparator.intercalate it.containers]
  | vnode it => [fieldSeparator.intercalate it.pods]
  | node it => [fieldSeparator.intercalate it.vnodes]

/-- The record line of an instance. -/
def recordLine (it : Instance) : String :=
  fieldSeparator.intercalate (it.ownFields ++ it.childField)

/-- The comment line before an instance, for the kinds that are set off. -/
def heading (it : Instance) : List String :=
  if it.kind.isNetworkAttached then ["# " ++ it.kind.name ++ fieldSeparator ++ it.id] else []

/-- How many empty lines follow an instance. -/
def blanksAfter (it : Instance) : Nat :=
  match it.kind with
  | .vnode => 1
  | .node => 2
  | _ => 0

/-- The record line of an instance and what sets it off. -/
def framedLines (it : Instance) : List String :=
  it.heading ++ it.recordLine :: List.replicate it.blanksAfter ""

end Instance

namespace Kind

/-- The comment that heads the section of a kind. -/
def sectionHeading : Kind → List String
  | container =>
    ["#1. define containers, container format:",
      "# container, <containerId>, <limitCPU>, <usedCPU>, <reqCPU>, <limitMem>, <usedMem>, " ++
        "<reqMem>, <limitQPS>, <usedQPS>"]
  | pod =>
    ["#2. define pods, pod format:",
      "# pod, <podId>, <containerId1>, <containerId2>, ..."]
  | vnode =>
    ["#3. define virtual machines (vnode), vnode format:",
      "# vnode, <vnodeId>, <cpuCapacity>, <memCapacity>, <IP>, <podId1>, <podId2>, ..."]
  | node =>
    ["#4. define physical machines (node), node format:",
      "# node, <nodeId>, <cpuCapacity>, <memCapacity>, <IP>, <vnodeId1>, <vnodeId2>, ..."]
  | service => []

end Kind

namespace Topology

/-- The lines of a topology in a layout. -/
def fileLines (topology : Topology) : Layout → List String
  | .emission => topology.instances.flatMap Instance.framedLines
  | .grouped => Kind.expanded.flatMap fun kind =>
      kind.sectionHeading ++ (topology.ofKind kind).flatMap Instance.framedLines ++ [""]

/-- The text of a topology in a layout. Every line is ended by a line feed. -/
def render (topology : Topology) (layout : Layout) : String :=
  String.join ((topology.fileLines layout).map (· ++ "\n"))

end Topology

end ClusterTopology
