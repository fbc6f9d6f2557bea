import SyntaxExport.Proofs.Drawing
import SyntaxExport.Proofs.GraphMarkup
import SyntaxExport.Proofs.Scope

/-!
# What the graph formats publish

Each graph format has its document spelled out from parts: the elements of the markup, the blocks of
the query script, the statements of the graph description. The parts say which nodes there are and
which edges lead to their parents, so each document is a graph on the nodes of the tree.

Results:
1. `Dot.nodeName_of_append`: a node's number in the graph description.
2. `graph_formats_agree`: all three publish the parent relation of the tree.
-/

namespace SyntaxExport.Encoder

open Session

namespace Dot

theorem relation_draw (root : Node) :
    (graph (draw none "root" 0 root)).relation = root.parentPairs := by
  rw [← statements_recorded false fun _ => none]
  exact (picture_recorded false (fun _ => none) root).1

/-- Nodes and lists are numbered together, so each of either moves the numbers after it by one. -/
theorem nodeName_of_append {root n : Node} {front back : List Statement} {id slot : String}
    (split : draw none "root" 0 root = front ++ .node id slot n :: back) :
    id = nodeName ((front.filterMap Statement.node?).length +
      (front.filterMap Statement.list?).length) := by
  obtain ⟨-, -, count, numbered⟩ := picture_recorded false (fun _ => none) root
  rw [statements_recorded, split, List.filterMap_append] at numbered
  rw [← length_filterMap_name?]
  exact eq_nodeName_of_append numbered

end Dot

/-- The three graph formats publish one parent relation, that of the tree: the markup by the fields
of its edges, the query script by its relationships, the graph description by its edges once lists
are merged with their owners. Markup and query script number the nodes by their ranks; in the graph
description each list before a node moves its number by one. -/
theorem graph_formats_agree (types : Bool) (resolve : Node → Option String) (root : Node) :
    let sheet := GraphML.sheet types root
    let script := Cypher.blocks ((cypher types).recorded .empty root)
    let picture := Dot.draw none "root" 0 root
    ((graphml types).run .empty root = sheet.text ∧
      (cypher types).run .empty root =
        "\n\n".intercalate (script.map (Cypher.Block.text types)) ++ "\n\n" ∧
      (dot types resolve).run .start root = Dot.text types resolve picture) ∧
    (sheet.graph.relation = root.parentPairs ∧
      (Cypher.graph script).relation = root.parentPairs ∧
      (Dot.graph picture).relation = root.parentPairs) ∧
    (sheet.graph.nodes = root.preorder.mapIdx (fun k n =>
        (nodeName k, GraphML.nodeElement types (nodeName k) n)) ∧
      (Cypher.graph script).nodes = root.preorder.mapIdx (fun k n => (nodeName k, n)) ∧
      (Dot.graph picture).nodes.map Prod.snd = root.preorder) ∧
    ∀ front id slot n back, picture = front ++ .node id slot n :: back →
      id = nodeName ((front.filterMap Dot.Statement.node?).length +
        (front.filterMap Dot.Statement.list?).length) := by
  intro sheet script picture
  have drawn : (dot types resolve).run .start root = Dot.text types resolve picture := by
    rw [Dot.run_eq_text, Dot.statements_recorded]
  exact ⟨⟨GraphML.run_eq_sheet types root, Cypher.run_eq_blocks types root, drawn⟩,
    ⟨GraphML.relation_sheet types root, Cypher.relation_blocks types root, Dot.relation_draw root⟩,
    ⟨GraphML.nodes_sheet types root, Cypher.nodes_graph_blocks types root, Dot.nodes_draw root⟩,
    fun _ _ _ _ _ split => Dot.nodeName_of_append split⟩

end SyntaxExport.Encoder
