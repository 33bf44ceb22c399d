import Flowplan.Proofs.Graph.Reading
import Flowplan.Proofs.Json.Values

namespace Flowplan

namespace Graph

open Record (Stands)

/-- What the fields of a node promise. -/
structure Node.Sound (node : Node) : Prop where
  named : node.name ≠ ""
  version_pos : 1 ≤ node.typeVersion
  parameters : (Json.obj node.parameters).Sound
  credentials : ∀ credentials ∈ node.credentials, Keyed credentials

/-- What the fields of a graph promise: no name has two connections or two members of the data of
free form, whose numbers are doubles or integers. -/
structure Sound (graph : Graph) : Prop where
  nodes : ∀ node ∈ graph.nodes, node.Sound
  connections : Keyed graph.connections
  settings : (Json.obj graph.settings).Sound
  metadata : (Json.obj graph.metadata).Sound

theorem describes_document_node {node : Node} (sound : node.Sound) :
    ∃ members, node.document = .obj members ∧ node.Describes members := by
  obtain ⟨id, name, type, version, ⟨x, y⟩, parameters, credentials⟩ := node
  refine ⟨_, rfl, ?_⟩
  cases credentials <;> exact {
    id := rfl
    name := rfl
    named := sound.named
    type := rfl
    typeVersion := ⟨rfl, sound.version_pos⟩
    position := ⟨_, _, rfl, rfl, rfl⟩
    parameters := rfl
    credentials := rfl }

theorem describesEdges_channelsJson (edges : List Edge) :
    DescribesEdges (channelsJson edges) edges := by
  refine ⟨_, edges.map fun edge => [edge.toJson], rfl, ?_, ?_⟩
  · simp [Json.parts?, Function.comp_def]
  · rw [← List.flatMap_def, ← List.map_eq_flatMap, List.forall₂_map_left_iff]
    exact List.forall₂_same.mpr fun edge _ => ⟨_, rfl, rfl, rfl, rfl⟩

theorem describes_document {graph : Graph} (sound : graph.Sound) (closed : graph.Closed) :
    ∃ members, graph.document = .obj members ∧ graph.Describes members := by
  obtain ⟨id, name, nodes, connections, active, settings, tags, version, metadata⟩ := graph
  refine ⟨_, rfl, {
    id := rfl
    name := rfl
    nodes := ⟨nodes.map Node.document, rfl, ?_⟩
    connections := ⟨connections.map fun entry => (entry.1, channelsJson entry.2), rfl, ?_⟩
    active := rfl
    settings := rfl
    tags := rfl
    version := by cases metadata <;> exact (Json.display_ofRaw version).symm
    metadata := ?_
    closed }⟩
  · rw [List.forall₂_map_left_iff]
    exact List.forall₂_same.mpr fun node hm => describes_document_node (sound.nodes node hm)
  · rw [List.forall₂_map_left_iff]
    exact List.forall₂_same.mpr fun source _ => ⟨rfl, describesEdges_channelsJson source.2⟩
  · cases metadata <;> rfl

/-- The document of a graph is read as the graph. -/
theorem ofDocument_document {graph : Graph} (sound : graph.Sound) (closed : graph.Closed) :
    ofDocument graph.document = .ok graph :=
  ofDocument_eq_ok_iff.mpr (describes_document sound closed)

theorem sound_credentialsJson {credentials : List (String × RawText)} (keyed : Keyed credentials) :
    (credentialsJson credentials).Sound := by
  refine ⟨?_, Json.soundMembers_iff.mpr ?_⟩
  · simpa [Keyed, Function.comp_def] using keyed
  · intro member hm
    obtain ⟨entry, -, rfl⟩ := List.mem_map.mp hm
    exact Json.sound_ofRaw entry.2

theorem sound_document_node {node : Node} (sound : node.Sound) : node.document.Sound := by
  obtain ⟨id, name, type, version, ⟨x, y⟩, parameters, credentials⟩ := node
  have hparameters := sound.parameters
  cases credentials with
  | none =>
    simpa [Node.document, Json.Sound, Json.SoundMembers, Keyed, positionJson, Json.SoundItems,
      Json.sound_ofRaw] using hparameters
  | some credentials =>
    have hcredentials := sound_credentialsJson (sound.credentials credentials rfl)
    simpa [Node.document, Json.Sound, Json.SoundMembers, Keyed, positionJson, Json.SoundItems,
      Json.sound_ofRaw] using ⟨hparameters, hcredentials⟩

theorem sound_rawTexts (texts : List RawText) : (Json.rawTexts texts).Sound := by
  refine Json.soundItems_iff.mpr fun item hm => ?_
  obtain ⟨text, -, rfl⟩ := List.mem_map.mp hm
  exact Json.sound_ofRaw text

theorem sound_channelsJson (edges : List Edge) : (channelsJson edges).Sound := by
  have hslots : Json.SoundItems (edges.map fun edge => .arr [edge.toJson]) := by
    refine Json.soundItems_iff.mpr fun item hm => ?_
    obtain ⟨edge, -, rfl⟩ := List.mem_map.mp hm
    simp [Json.Sound, Json.SoundItems, Edge.toJson, Keyed, Json.SoundMembers, Json.sound_ofRaw]
  exact ⟨List.nodup_singleton _, hslots, trivial⟩

theorem sound_document {graph : Graph} (sound : graph.Sound) : graph.document.Sound := by
  have hnodes : (Json.arr (graph.nodes.map Node.document)).Sound := by
    refine Json.soundItems_iff.mpr fun item hm => ?_
    obtain ⟨node, hnode, rfl⟩ := List.mem_map.mp hm
    exact sound_document_node (sound.nodes node hnode)
  have hconnections : (Json.obj (graph.connections.map fun entry =>
      (entry.1, channelsJson entry.2))).Sound := by
    refine ⟨?_, Json.soundMembers_iff.mpr fun member hm => ?_⟩
    · simpa [Keyed, Function.comp_def] using sound.connections
    · obtain ⟨entry, -, rfl⟩ := List.mem_map.mp hm
      exact sound_channelsJson entry.2
  have hsettings := sound.settings
  have htags := sound_rawTexts graph.tags
  have hmetadata := sound.metadata
  have htail : Json.SoundMembers
      (if graph.metadata.isEmpty then [] else [("meta", .obj graph.metadata)]) := by
    split
    · trivial
    · exact ⟨hmetadata, trivial⟩
  refine ⟨?_, Json.sound_ofRaw _, Json.sound_ofRaw _, hnodes, hconnections, trivial, hsettings,
    htags, Json.sound_ofRaw _, htail⟩
  cases h : graph.metadata.isEmpty <;> simp [Keyed]

def Node.joined (node : Node) : Node :=
  { node with
    id := node.id.joined
    type := node.type.joined
    parameters := Json.joinedMembers node.parameters
    credentials := node.credentials.map fun credentials =>
      credentials.map fun entry => (entry.1, entry.2.joined) }

def Edge.joined (edge : Edge) : Edge :=
  { edge with channel := edge.channel.joined }

/-- The graph as it is read back: in each of its texts, a high half is joined with the low half
behind it. -/
def joined (graph : Graph) : Graph :=
  { graph with
    id := graph.id.joined
    name := graph.name.joined
    nodes := graph.nodes.map Node.joined
    connections := graph.connections.map fun entry => (entry.1, entry.2.map Edge.joined)
    settings := Json.joinedMembers graph.settings
    tags := graph.tags.map RawText.joined
    version := graph.version.joined
    metadata := Json.joinedMembers graph.metadata }

theorem joined_document_node (node : Node) : node.document.joined = node.joined.document := by
  obtain ⟨id, name, type, version, ⟨x, y⟩, parameters, credentials⟩ := node
  cases credentials <;>
    simp [Node.document, Node.joined, Json.joined, Json.joinedItems_eq_map,
      Json.joinedMembers_eq_map, positionJson, credentialsJson]

theorem joined_channelsJson (edges : List Edge) :
    (channelsJson edges).joined = channelsJson (edges.map Edge.joined) := by
  simp [channelsJson, Edge.toJson, Edge.joined, Json.joined, Json.joinedItems_eq_map,
    Json.joinedMembers_eq_map]

theorem joined_document (graph : Graph) : graph.document.joined = graph.joined.document := by
  have hmetadata : (graph.joined.metadata.isEmpty) = graph.metadata.isEmpty := by
    simp [joined, Json.joinedMembers_eq_map]
  rw [document, document, hmetadata]
  cases graph.metadata.isEmpty <;>
    simp [joined, Json.joined, Json.joinedItems_eq_map, Json.joinedMembers_eq_map, Json.rawTexts,
      joined_document_node, joined_channelsJson]

theorem Sound.joined {graph : Graph} (sound : graph.Sound) : graph.joined.Sound where
  nodes := by
    refine List.forall_mem_map.mpr fun node hm => ?_
    have hnode := sound.nodes node hm
    refine ⟨hnode.named, hnode.version_pos, Json.sound_joined hnode.parameters, ?_⟩
    rintro _ hcredentials
    obtain ⟨credentials, hc, rfl⟩ := Option.map_eq_some_iff.mp hcredentials
    simpa [Keyed, Function.comp_def] using hnode.credentials credentials hc
  connections := by simpa [Graph.joined, Keyed, Function.comp_def] using sound.connections
  settings := Json.sound_joined sound.settings
  metadata := Json.sound_joined sound.metadata

theorem names_joined (graph : Graph) : graph.joined.names = graph.names := by
  simp [names, joined, Node.joined, Function.comp_def]

theorem Closed.joined {graph : Graph} (closed : graph.Closed) : graph.joined.Closed := by
  refine List.forall_mem_map.mpr fun source hm => ?_
  rw [names_joined]
  exact ⟨(closed source hm).1, List.forall_mem_map.mpr (closed source hm).2⟩

/-- A document determines its graph, and so whether halves are joined in it. -/
theorem joined_eq_self_iff {graph : Graph} (sound : graph.Sound) (closed : graph.Closed) :
    graph.joined = graph ↔ ∀ text ∈ graph.document.allTexts, text.IsApart := by
  rw [← Json.joined_eq_self_iff, joined_document]
  constructor
  · exact congrArg document
  · intro h
    have hread := ofDocument_document sound.joined closed.joined
    rw [h, ofDocument_document sound closed] at hread
    exact (Except.ok.inj hread).symm

theorem serializeWithin_eq (graph : Graph) (limits : Json.Limits) :
    graph.serializeWithin limits
      = match graph.document.excess? limits.digits limits.nesting with
        | none => .ok graph.text
        | some limit => .error (.unwritten limit) := by
  unfold serializeWithin Json.indentedWithin
  cases graph.document.excess? limits.digits limits.nesting <;> rfl

/-- What a reader makes of the text of a graph, if it can hold the document: the graph, with its
halves joined. -/
theorem deserializeWithin_text {graph : Graph} (sound : graph.Sound) (closed : graph.Closed)
    (limits : Json.Limits) :
    deserializeWithin limits graph.text
      = match graph.document.excess? limits.digits limits.nesting with
        | none => .ok graph.joined
        | some limit => .error (.limit limit) := by
  unfold deserializeWithin text
  rw [Json.parseWithin_indented limits (sound_document sound)]
  cases graph.document.excess? limits.digits limits.nesting with
  | none =>
    rw [joined_document]
    exact ofDocument_document sound.joined closed.joined
  | some limit => rfl

/-- What a reader makes of what a writer has left of a graph. -/
theorem deserializeWithin_serializeWithin {graph : Graph} (sound : graph.Sound)
    (closed : graph.Closed) (writer reader : Json.Limits) :
    graph.serializeWithin writer >>= deserializeWithin reader
      = match graph.document.excess? writer.digits writer.nesting,
          graph.document.excess? reader.digits reader.nesting with
        | some limit, _ => .error (.unwritten limit)
        | none, some limit => .error (.limit limit)
        | none, none => .ok graph.joined := by
  have hread := deserializeWithin_text sound closed reader
  rw [serializeWithin_eq]
  cases graph.document.excess? writer.digits writer.nesting with
  | some limit => rfl
  | none =>
    refine Eq.trans hread ?_
    cases graph.document.excess? reader.digits reader.nesting <;> rfl

theorem serialize_bind_deserialize {graph : Graph} (sound : graph.Sound) (closed : graph.Closed) :
    graph.serialize >>= deserialize = match graph.document.excess? Text.mostDigits 990 with
      | some limit => .error (.unwritten limit)
      | none => .ok graph.joined := by
  have hread := deserializeWithin_serializeWithin sound closed .standard .standard
  simp only [Json.Limits.standard] at hread
  change graph.serializeWithin _ >>= deserializeWithin _ = _
  rw [Json.Limits.standard, hread]
  cases graph.document.excess? Text.mostDigits 990 <;> rfl

/-- A graph without nodes, whose settings hold an integer of one digit more than a text may
have. -/
def overlong : Graph where
  id := "1"
  name := "Overlong"
  nodes := []
  connections := []
  active := false
  settings := [("n", .overlong)]
  tags := []
  version := "1"
  metadata := []

end Graph

end Flowplan
