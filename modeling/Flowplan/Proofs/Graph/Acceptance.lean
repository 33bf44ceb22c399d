import Flowplan.Proofs.Graph.Refusal
import Flowplan.Proofs.Graph.RoundTrip
import Flowplan.Proofs.Json.Lengths
import Flowplan.Proofs.Record.Scalars

namespace Flowplan

namespace Graph

open Json (Held)
open Record (Short Stands)

variable {members : Record.Members} {room : Nat}

theorem Node.Describes.sound {node : Node} (describes : node.Describes members)
    (held : Held Text.mostDigits room (.obj members)) : node.Sound where
  named := describes.named
  version_pos := by
    rcases describes.typeVersion.cases with ⟨_, -, -, hle⟩ | ⟨-, hone⟩
    · exact hle
    · omega
  parameters := by
    rcases describes.parameters.cases with ⟨json, hlookup, rfl⟩ | ⟨-, hempty⟩
    · exact (held.of_lookup hlookup).sound
    · rw [hempty]
      exact ⟨List.nodup_nil, trivial⟩
  credentials := by
    intro credentials hc
    rcases describes.credentials.cases with ⟨json, hlookup, rfl⟩ | ⟨-, hnone⟩
    · have hsound := (held.of_lookup hlookup).sound
      rw [Option.mem_def.mp hc] at hsound
      simpa [Keyed, Function.comp_def] using hsound.1
    · rw [hnone] at hc
      simp at hc

theorem Node.Describes.short {node : Node} (describes : node.Describes members)
    (held : Held Text.mostDigits room (.obj members)) :
    Short node.typeVersion ∧ Short node.position.1 ∧ Short node.position.2 := by
  refine ⟨?_, ?_⟩
  · rcases describes.typeVersion.cases with ⟨json, hlookup, hwhole, -⟩ | ⟨-, hone⟩
    · exact Record.short_whole hwhole (held.of_lookup hlookup)
    · rw [hone]
      decide
  · rcases describes.position.cases with ⟨json, hlookup, x, y, hparts, hx, hy⟩ | ⟨-, hzero⟩
    · have hjson := held.of_lookup hlookup
      exact ⟨Record.short_whole hx (hjson.of_mem_parts hparts (by simp)),
        Record.short_whole hy (hjson.of_mem_parts hparts (by simp))⟩
    · rw [hzero]
      decide

/-- A field that is held as it was read, or that has a default. -/
theorem held_of_stands {name : String} {json : Json} {absent : Prop}
    (stands : Stands members name (· = json) absent)
    (held : Held Text.mostDigits (room + 1) (.obj members))
    (default : absent → Held Text.mostDigits room json) : Held Text.mostDigits room json := by
  rcases stands.cases with ⟨_, hlookup, rfl⟩ | ⟨-, habsent⟩
  · exact held.of_lookup hlookup
  · exact default habsent

theorem held_free {name : String} {free : Record.Members}
    (stands : Stands members name (· = .obj free) (free = []))
    (held : Held Text.mostDigits (room + 2) (.obj members)) :
    Held Text.mostDigits (room + 1) (.obj free) := by
  refine held_of_stands stands held ?_
  rintro rfl
  exact Json.held_obj List.nodup_nil (by simp)

theorem Node.Describes.held {node : Node} (describes : node.Describes members)
    (held : Held Text.mostDigits (room + 2) (.obj members)) :
    Held Text.mostDigits (room + 2) node.document := by
  obtain ⟨hversion, hx, hy⟩ := describes.short held
  have hid : Held Text.mostDigits (room + 1) (.ofRaw node.id) := held.of_lookup describes.id
  have htype : Held Text.mostDigits (room + 1) (.ofRaw node.type) := held.of_lookup describes.type
  have hposition : Held Text.mostDigits (room + 1) (positionJson node.position) := by
    refine Json.held_arr ?_
    simp only [List.forall_mem_cons]
    exact ⟨Record.held_int hx, Record.held_int hy, by simp⟩
  have hcredentials : ∀ member ∈ (node.credentials.map fun credentials =>
      ("credentials", credentialsJson credentials)).toList,
      Held Text.mostDigits (room + 1) member.2 := by
    have hstands := describes.credentials
    cases hnode : node.credentials with
    | none => simp
    | some credentials =>
      rw [hnode] at hstands
      simpa [Json.ofOption] using
        held_of_stands hstands held (absurd · (Option.some_ne_none credentials))
  refine Json.held_obj (sound_document_node (describes.sound held)).1
    (List.forall_mem_append.mpr ⟨?_, hcredentials⟩)
  simp only [List.forall_mem_cons]
  exact ⟨hid, Json.held_str _, htype, Record.held_int hversion, hposition,
    held_free describes.parameters held, by simp⟩

/-- What the edge holds can be written and read. -/
structure Edge.Written (edge : Edge) : Prop where
  short : Short edge.input
  joined : edge.channel.joined = edge.channel

theorem Edge.Describes.written {edge : Edge} (describes : edge.Describes members)
    (held : Held Text.mostDigits room (.obj members)) : edge.Written where
  short := by
    rcases describes.input.cases with ⟨json, hlookup, hwhole⟩ | ⟨-, hzero⟩
    · exact Record.short_whole hwhole (held.of_lookup hlookup)
    · rw [hzero]
      decide
  joined := by
    rcases describes.channel.cases with ⟨json, hlookup, rfl⟩ | ⟨-, hmain⟩
    · exact (held.of_lookup hlookup).joined_eq
    · rw [hmain]
      exact RawText.joined_ofString "main"

theorem DescribesEdges.written {channels : Json} {edges : List Edge}
    (describes : DescribesEdges channels edges) (held : Held Text.mostDigits room channels) :
    ∀ edge ∈ edges, edge.Written := by
  intro edge hedge
  obtain ⟨members, lists, rfl, hparts, hedges⟩ := describes
  obtain ⟨json, hjson, fields, rfl, hfields⟩ := exists_mem_of_forall₂ hedges hedge
  obtain ⟨list, hlist, hitem⟩ := List.mem_flatten.mp hjson
  cases hlookup : members.lookup "main" with
  | none =>
    rw [hlookup] at hparts
    obtain rfl : lists = [] := by simpa [Json.parts?] using hparts
    simp at hlist
  | some main =>
    rw [hlookup] at hparts
    have hslot := (held.of_lookup hlookup).of_mem_parts hparts (List.mem_map_of_mem hlist)
    exact hfields.written (hslot.of_mem_arr hitem)

theorem held_channelsJson {edges : List Edge} (written : ∀ edge ∈ edges, edge.Written) :
    Held Text.mostDigits (room + 4) (channelsJson edges) := by
  have hedge : ∀ edge ∈ edges, Held Text.mostDigits (room + 1) edge.toJson := by
    intro edge hm
    refine Json.held_obj (by simp [Keyed]) ?_
    simp only [List.forall_mem_cons]
    exact ⟨Json.held_str _, Json.held_ofRaw _ _ (written edge hm).joined,
      Record.held_int (written edge hm).short, by simp⟩
  have hslots : Held Text.mostDigits (room + 3) (.arr (edges.map fun edge => .arr [edge.toJson])) :=
    Json.held_map fun edge hm => Json.held_arr (by simpa using hedge edge hm)
  exact Json.held_obj (List.nodup_singleton _) (by simpa using hslots)

theorem Describes.held_connections {graph : Graph} (describes : graph.Describes members)
    (held : Held Text.mostDigits (room + 2) (.obj members)) :
    ∃ entries, Held Text.mostDigits (room + 1) (.obj entries) ∧
      List.Forall₂ (fun entry source => entry.1 = source.1 ∧ DescribesEdges entry.2 source.2)
        entries graph.connections := by
  obtain ⟨entries, hentries, hsources⟩ := describes.connections
  refine ⟨entries, ?_, hsources⟩
  cases hlookup : members.lookup "connections" with
  | some json =>
    rw [hlookup, Option.getD_some] at hentries
    exact held.of_lookup (hentries ▸ hlookup)
  | none =>
    rw [hlookup] at hentries
    obtain rfl := Json.obj.inj hentries
    exact Json.held_obj List.nodup_nil (by simp)

theorem Describes.held_metadata {graph : Graph} (describes : graph.Describes members)
    (held : Held Text.mostDigits (room + 2) (.obj members)) :
    Held Text.mostDigits (room + 1) (.obj graph.metadata) := by
  have hempty : Held Text.mostDigits (room + 1) (.obj []) := Json.held_obj List.nodup_nil (by simp)
  rcases describes.metadata.cases with ⟨json, hlookup, hjson⟩ | ⟨-, hnone⟩
  · split at hjson
    · exact held.of_lookup (hjson ▸ hlookup)
    · rwa [hjson]
  · rwa [hnone]

/-- A graph that stands for a document keeps the promises of its fields. -/
theorem Describes.sound {graph : Graph} (describes : graph.Describes members)
    (held : Held Text.mostDigits (room + 2) (.obj members)) : graph.Sound where
  nodes := by
    intro node hm
    obtain ⟨items, hlookup, hitems⟩ := describes.nodes
    obtain ⟨json, hjson, fields, rfl, hfields⟩ := exists_mem_of_forall₂ hitems hm
    exact hfields.sound ((held.of_lookup hlookup).of_mem_arr hjson)
  connections := by
    obtain ⟨entries, hentries, hsources⟩ := describes.held_connections held
    have hnames : entries.map (·.1) = graph.connections.map (·.1) := by
      rw [← List.forall₂_eq_eq_eq, List.forall₂_map_left_iff, List.forall₂_map_right_iff]
      exact hsources.imp fun _ _ h => h.1
    unfold Keyed
    rw [← hnames]
    exact hentries.sound.1
  settings := (held_free describes.settings held).sound
  metadata := (describes.held_metadata held).sound

theorem Describes.held_version {graph : Graph} (describes : graph.Describes members)
    (held : Held Text.mostDigits (room + 1) (.obj members)) :
    Held Text.mostDigits room (.ofRaw graph.version) := by
  rw [describes.version, readVersion]
  cases hlookup : members.lookup "versionId" with
  | some json => exact Json.held_ofRaw _ _ (held.of_lookup hlookup).joined_display
  | none => exact Json.held_ofRaw _ _ (RawText.joined_ofString "1")

/-- A reader that held the document that a graph was read from also holds the document that is
written for the graph; `6` is how deep the written document nests an edge. -/
theorem Describes.held {graph : Graph} (describes : graph.Describes members)
    (held : Held Text.mostDigits (room + 6) (.obj members)) :
    Held Text.mostDigits (room + 6) graph.document := by
  have hid : Held Text.mostDigits (room + 5) (.ofRaw graph.id) := held.of_lookup describes.id
  have hname : Held Text.mostDigits (room + 5) (.ofRaw graph.name) := held.of_lookup describes.name
  have hnodes : Held Text.mostDigits (room + 5) (.arr (graph.nodes.map Node.document)) := by
    refine Json.held_map fun node hnode => ?_
    obtain ⟨items, hlookup, hitems⟩ := describes.nodes
    obtain ⟨json, hjson, fields, rfl, hfields⟩ := exists_mem_of_forall₂ hitems hnode
    exact hfields.held ((held.of_lookup hlookup).of_mem_arr hjson)
  have hconnections : Held Text.mostDigits (room + 5) (.obj (graph.connections.map fun entry =>
      (entry.1, channelsJson entry.2))) := by
    refine Json.held_table (describes.sound held).connections fun source hsource => ?_
    obtain ⟨entries, hentries, hsources⟩ := describes.held_connections held
    obtain ⟨entry, hentry, -, hedges⟩ := exists_mem_of_forall₂ hsources hsource
    exact held_channelsJson (hedges.written (hentries.of_mem_obj hentry))
  have htags : Held Text.mostDigits (room + 5) (.rawTexts graph.tags) := by
    refine held_of_stands describes.tags held fun hnone => ?_
    rw [hnone]
    exact Json.held_arr (by simp)
  have hmetadata : ∀ member ∈ (if graph.metadata.isEmpty then []
      else [("meta", Json.obj graph.metadata)]), Held Text.mostDigits (room + 5) member.2 := by
    have hmeta := describes.held_metadata held
    split <;> simp [hmeta]
  refine Json.held_obj (sound_document (describes.sound held)).1
    (List.forall_mem_append.mpr ⟨?_, hmetadata⟩)
  simp only [List.forall_mem_cons]
  exact ⟨hid, hname, hnodes, hconnections, ⟨trivial, rfl, rfl⟩, held_free describes.settings held,
    htags, describes.held_version held, by simp⟩

/-- The objects in the slots of the main channel of a node, slot by slot. -/
def mainObjects (channels : Json) : List Json :=
  (((channels.member? "main").bind Json.parts?).getD []).flatMap fun
    | .arr items => items
    | _ => []

/-- The objects that a document gives for the edges of all nodes. -/
def edgeObjects (members : Record.Members) : List Json :=
  match members.lookup "connections" with
  | some (.obj entries) => entries.flatMap fun entry => mainObjects entry.2
  | _ => []

theorem DescribesEdges.length_eq {channels : Json} {edges : List Edge}
    (describes : DescribesEdges channels edges) : edges.length = (mainObjects channels).length := by
  obtain ⟨members, lists, rfl, hparts, hedges⟩ := describes
  have hobjects : mainObjects (.obj members) = lists.flatten := by
    have hmain : (((Json.obj members).member? "main").bind Json.parts?).getD []
        = lists.map .arr := by
      cases hlookup : members.lookup "main" with
      | some main =>
        rw [hlookup, Option.getD_some] at hparts
        simp [Json.member?, hlookup, hparts]
      | none =>
        rw [hlookup] at hparts
        obtain rfl : lists = [] := by simpa [Json.parts?] using hparts
        simp [Json.member?, hlookup]
    rw [mainObjects, hmain, List.flatMap_map]
    exact List.flatMap_id
  rw [hobjects]
  exact hedges.length_eq.symm

/-- No edge is lost and none is made up. -/
theorem Describes.edgeCount_eq {graph : Graph} (describes : graph.Describes members) :
    graph.edgeCount = (edgeObjects members).length := by
  obtain ⟨entries, hentries, hsources⟩ := describes.connections
  have hobjects : edgeObjects members = entries.flatMap fun entry => mainObjects entry.2 := by
    unfold edgeObjects
    cases hlookup : members.lookup "connections" with
    | some json =>
      rw [hlookup, Option.getD_some] at hentries
      rw [hentries]
    | none =>
      rw [hlookup] at hentries
      rw [← Json.obj.inj hentries]
      rfl
  rw [hobjects, edgeCount, edges]
  clear hentries hobjects
  generalize graph.connections = sources at hsources
  induction hsources with
  | nil => rfl
  | cons hfirst _ ih =>
    rw [List.flatMap_cons, List.flatMap_cons, List.length_append, List.length_append, ih,
      hfirst.2.length_eq]

theorem deserializeWithin_eq_ok_iff {limits : Json.Limits} {text : String} {graph : Graph} :
    deserializeWithin limits text = .ok graph ↔
      ∃ members, Json.parseWithin limits text = .ok (.obj members) ∧ graph.Describes members := by
  unfold deserializeWithin
  split
  next json hjson =>
    rw [ofDocument_eq_ok_iff, hjson]
    constructor
    · rintro ⟨members, rfl, describes⟩
      exact ⟨members, rfl, describes⟩
    · rintro ⟨members, he, describes⟩
      exact ⟨members, Except.ok.inj he, describes⟩
  next => simp_all [refuse]
  next => simp_all

theorem deserializeWithin_eq_limit_iff {limits : Json.Limits} {text : String}
    {limit : Json.Limit} : deserializeWithin limits text = .error (.limit limit) ↔
      Json.parseWithin limits text = .error (.beyond limit) := by
  unfold deserializeWithin
  split
  next json hjson =>
    have hblames := blames_ofDocument json (.limit limit)
    simp only [hjson, reduceCtorEq, iff_false]
    exact fun he => by simpa using hblames he
  next => simp_all [refuse]
  next => simp_all

/-- The text of a graph that was read can be written, and the same graph is read again from it. -/
theorem deserialize_serialize_of_deserialize {text : String} {graph : Graph}
    (h : deserialize text = .ok graph) : graph.serialize >>= deserialize = .ok graph := by
  obtain ⟨members, hparse, describes⟩ := deserializeWithin_eq_ok_iff.mp h
  have held : Held Text.mostDigits 990 (.obj members) := Json.held_of_parseWithin hparse
  have sound := describes.sound held
  have hdocument := describes.held held
  have hjoined := (joined_eq_self_iff sound describes.closed).mpr
    (Json.joined_eq_self_iff.mp hdocument.settled)
  rw [serialize_bind_deserialize sound describes.closed, hdocument.fits, hjoined]

theorem deserialize_error_cases {text : String} {fault : Fault}
    (h : deserialize text = .error fault) :
    (∃ cause, fault = .document cause) ∨ ∃ limit, fault = .limit limit := by
  unfold deserialize deserializeWithin at h
  split at h
  · exact .inl (blames_ofDocument _ fault h)
  · exact .inl (blames_refuse _ fault h)
  · exact .inr ⟨_, (Except.error.inj h).symm⟩

/-- A limit of the reader shows exactly where wider limits change the answer. -/
theorem deserialize_eq_limit_iff (text : String) :
    (∃ limit, deserialize text = .error (.limit limit)) ↔
      ∃ limits ≥ Json.Limits.standard, deserializeWithin limits text ≠ deserialize text := by
  constructor
  · rintro ⟨limit, hlimit⟩
    refine ⟨⟨max 990 text.toList.length, max Text.mostDigits text.toList.length⟩,
      ⟨le_max_left _ _, le_max_left _ _⟩, fun he => ?_⟩
    rw [hlimit, deserializeWithin_eq_limit_iff] at he
    exact Json.parseWithin_ne_beyond (le_max_right _ _) (le_max_right _ _) limit he
  · rintro ⟨limits, hl, hne⟩
    by_contra hlimit
    have hparse : ∀ limit, Json.parseWithin .standard text ≠ .error (.beyond limit) := by
      intro limit he
      exact hlimit ⟨limit, deserializeWithin_eq_limit_iff.mpr he⟩
    apply hne
    unfold deserialize deserializeWithin
    rw [Json.parseWithin_of_le hl hparse]

/-- A text gives a graph that stands for its document and is read again from its own text, or it is
refused for a reason that concerns the document, or it meets a limit of the reader, but only where a
reader with wider limits answers otherwise. -/
theorem deserialize_faithful (text : String) :
    (∀ graph, deserialize text = .ok graph →
      (∃ members, Json.parse text = .ok (.obj members) ∧ graph.Describes members ∧
        graph.edgeCount = (edgeObjects members).length) ∧
      (∀ node ∈ graph.nodes, node.name ≠ "" ∧ 1 ≤ node.typeVersion) ∧ graph.Closed ∧
      graph.serialize >>= deserialize = .ok graph) ∧
    (∀ fault, deserialize text = .error fault →
      (∃ cause, fault = .document cause) ∨ ∃ limit, fault = .limit limit) ∧
    ((∃ limit, deserialize text = .error (.limit limit)) ↔
      ∃ limits ≥ Json.Limits.standard, deserializeWithin limits text ≠ deserialize text) := by
  refine ⟨fun graph h => ?_, fun _ h => deserialize_error_cases h, deserialize_eq_limit_iff text⟩
  obtain ⟨members, hparse, describes⟩ := deserializeWithin_eq_ok_iff.mp h
  have held : Held Text.mostDigits 990 (.obj members) := Json.held_of_parseWithin hparse
  have sound := describes.sound held
  refine ⟨⟨members, hparse, describes, describes.edgeCount_eq⟩, fun node hm => ?_,
    describes.closed, deserialize_serialize_of_deserialize h⟩
  exact ⟨(sound.nodes node hm).named, (sound.nodes node hm).version_pos⟩

/-- A document whose only member is an integer of one digit more than a text may have. -/
def overlongDocument : Json :=
  .obj [("n", .overlong)]

/-- Not every text is read or refused for a reason that concerns the document. -/
theorem deserialize_overlong :
    deserialize overlongDocument.indented = .error (.limit (.digits 4301)) ∧
      ¬∃ cause, deserialize overlongDocument.indented = .error (.document cause) := by
  have hsound : overlongDocument.Sound := ⟨List.nodup_singleton _, trivial, trivial⟩
  have hexcess : overlongDocument.excess? Text.mostDigits 990 = some (.digits 4301) := by
    rw [overlongDocument, Json.excess?, if_neg (by decide), Json.excessOfMembers?,
      Json.excess?_overlong]
    rfl
  have hread : deserialize overlongDocument.indented = .error (.limit (.digits 4301)) := by
    refine deserializeWithin_eq_limit_iff.mpr ?_
    rw [Json.parseWithin_indented .standard hsound]
    simp only [Json.Limits.standard, hexcess]
  refine ⟨hread, ?_⟩
  rw [hread]
  simp

end Graph

end Flowplan
