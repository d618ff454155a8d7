import ClusterTopology.Notice
import ClusterTopology.Register
import ClusterTopology.Template.Record

/-!
The store of templates: one shelf per kind, so that the same key may be used once
under every kind. A shelf is a register whose order and entries are in step, and what
is found in it under a key bears that key. The order of the nodes is the order in
which they are expanded.
-/

namespace ClusterTopology

/-- Entries under their own keys, as `keyOf` tells them. -/
structure Shelf (α : Type) (keyOf : α → String) extends Register α where
  inStep : toRegister.InStep
  keyOf_of_find? : ∀ {key : String} {value : α}, toRegister.find? key = some value →
    keyOf value = key

namespace Shelf

variable {α : Type} {keyOf : α → String}

/-- The shelf without entries. -/
def empty : Shelf α keyOf where
  toRegister := {}
  inStep := .empty
  keyOf_of_find? := nofun

/-- Put an entry under its own key. -/
def insert (shelf : Shelf α keyOf) (value : α) : Shelf α keyOf where
  toRegister := shelf.toRegister.insert (keyOf value) value
  inStep := shelf.inStep.insert (keyOf value) value
  keyOf_of_find? := by
    intro key found
    rw [Register.find?_insert]
    split
    · rename_i same
      rintro ⟨⟩
      exact same.symm
    · exact shelf.keyOf_of_find?

end Shelf

/-- Templates by kind and key. -/
structure Store where
  containers : Shelf ContainerTemplate ContainerTemplate.key := .empty
  pods : Shelf PodTemplate PodTemplate.key := .empty
  vnodes : Shelf VNodeTemplate VNodeTemplate.key := .empty
  nodes : Shelf NodeTemplate NodeTemplate.key := .empty
  services : Shelf ServiceTemplate ServiceTemplate.key := .empty

namespace Store

/-- The store without templates. -/
def empty : Store := {}

/-- Put a template under its own key among those of its kind. -/
def insert (store : Store) : Template → Store
  | .container template => { store with containers := store.containers.insert template }
  | .pod template => { store with pods := store.pods.insert template }
  | .vnode template => { store with vnodes := store.vnodes.insert template }
  | .node template => { store with nodes := store.nodes.insert template }
  | .service template => { store with services := store.services.insert template }

/-- The template of that kind under that key. -/
def find? (store : Store) (kind : Kind) (key : String) : Option Template :=
  match kind with
  | .container => (store.containers.find? key).map .container
  | .pod => (store.pods.find? key).map .pod
  | .vnode => (store.vnodes.find? key).map .vnode
  | .node => (store.nodes.find? key).map .node
  | .service => (store.services.find? key).map .service

/-- Whether there is a template of that kind under that key. -/
def contains (store : Store) (kind : Kind) (key : String) : Bool :=
  match kind with
  | .container => store.containers.contains key
  | .pod => store.pods.contains key
  | .vnode => store.vnodes.contains key
  | .node => store.nodes.contains key
  | .service => store.services.contains key

/-- How many keys there are among the templates of that kind. -/
def count (store : Store) : Kind → Nat
  | .container => store.containers.size
  | .pod => store.pods.size
  | .vnode => store.vnodes.size
  | .node => store.nodes.size
  | .service => store.services.size

/-- Whether there is no template of any kind. -/
def isEmpty (store : Store) : Bool := Kind.all.all fun kind => store.count kind == 0

/-- What there is to say when a template is put into the store. -/
def insertNotices (store : Store) (template : Template) : List Notice :=
  if store.contains template.kind template.key then
    [.redefined template.kind template.key]
  else []

/-- A record that was taken in. -/
structure Addition where
  store : Store
  kind : Kind
  notices : List Notice

/-- Take in the template that a record describes. -/
def add (store : Store) (record : Json) : Except Error Addition := do
  let template ← Template.accept record
  return ⟨store.insert template, template.kind, store.insertNotices template⟩

end Store

end ClusterTopology
