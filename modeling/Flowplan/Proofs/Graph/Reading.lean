import Flowplan.Graph.Document
import Flowplan.Proofs.Record.Reading

namespace Flowplan

namespace Graph

open Record (Stands stands_congr)

/-- The node stands for an object with these members. -/
structure Node.Describes (members : Record.Members) (node : Node) : Prop where
  id : members.lookup "id" = some (.ofRaw node.id)
  name : members.lookup "name" = some (.str node.name)
  named : node.name ≠ ""
  type : members.lookup "type" = some (.ofRaw node.type)
  typeVersion : Stands members "typeVersion"
    (fun json => Record.whole json = .value node.typeVersion ∧ 1 ≤ node.typeVersion)
    (node.typeVersion = 1)
  position : Stands members "position"
    (fun json => ∃ x y, json.parts? = some [x, y] ∧
      Record.whole x = .value node.position.1 ∧ Record.whole y = .value node.position.2)
    (node.position = (0, 0))
  parameters : Stands members "parameters" (· = .obj node.parameters) (node.parameters = [])
  credentials : Stands members "credentials" (· = .ofOption credentialsJson node.credentials)
    (node.credentials = none)

theorem key_eq_ok_iff {members : Record.Members} {name : String} {json : Json} :
    key members name = .ok json ↔ members.lookup name = some json := by
  unfold key
  cases members.lookup name <;> simp [refuse]

theorem accept_eq_ok_iff {α : Type} {read : Checked α} {a : α} :
    accept read = .ok a ↔ read = .value a := by
  cases read <;> simp [accept, refuse]

theorem parts_eq_ok_iff {json : Json} {items : List Json} :
    parts json = .ok items ↔ json.parts? = some items := by
  unfold parts
  cases json.parts? <;> simp [refuse]

theorem lookup_renamed (members : Record.Members) (name newName : String) :
    (renamed members name newName).lookup newName = members.lookup name := by
  unfold renamed
  cases members.lookup name <;> simp

theorem lookup_renamed_of_ne (members : Record.Members) (name : String) {newName other : String}
    (h : other ≠ newName) : (renamed members name newName).lookup other = none := by
  unfold renamed
  cases members.lookup name <;> simp [h]

theorem table_raw_eq_value_iff {json : Json} {entries : List (String × RawText)} :
    Record.table Record.raw json = .value entries ↔ json = credentialsJson entries := by
  have hmembers : ∀ members : Record.Members,
      List.Forall₂ (fun member entry =>
          (Record.raw member.2).map (member.1, ·) = .value entry) members entries ↔
        members = entries.map fun entry => (entry.1, .ofRaw entry.2) := by
    intro members
    rw [← List.forall₂_eq_eq_eq, List.forall₂_map_right_iff]
    have hentry : ∀ (member : String × Json) (entry : String × RawText),
        (Record.raw member.2).map (member.1, ·) = .value entry ↔
          member = (entry.1, .ofRaw entry.2) := by
      rintro ⟨name, json⟩ ⟨name', value⟩
      simp only [Checked.map_eq_value_iff, Record.raw_eq_value_iff, Prod.mk.injEq]
      constructor
      · rintro ⟨_, rfl, rfl, rfl⟩
        exact ⟨rfl, rfl⟩
      · rintro ⟨rfl, rfl⟩
        exact ⟨value, rfl, rfl, rfl⟩
    simp only [hentry]
  cases json <;> simp [Record.table, Checked.each_eq_value_iff, hmembers, credentialsJson]

theorem nullable_table_eq_value_iff {json : Json} {credentials : Option (List (String × RawText))} :
    Record.nullable (Record.table Record.raw) json = .value credentials ↔
      json = .ofOption credentialsJson credentials := by
  by_cases hnull : json = .null
  · subst hnull
    cases credentials <;> simp [Record.nullable, Json.ofOption, credentialsJson]
  · have hread : Record.nullable (Record.table Record.raw) json
        = (Record.table Record.raw json).map some := by
      cases json <;> first | exact absurd rfl hnull | rfl
    rw [hread, Checked.map_eq_value_iff]
    cases credentials <;> simp [table_raw_eq_value_iff, Json.ofOption, hnull]

theorem readPosition_eq_ok_iff {members position : Record.Members} :
    readPosition members = .ok position ↔ Stands members "position"
      (fun json => ∃ items, json.parts? = some items ∧ [("position", .arr items)] = position)
      ([] = position) := by
  unfold readPosition Stands
  cases members.lookup "position" with
  | none => simp
  | some json => simp [map_eq_ok_iff, parts_eq_ok_iff]

theorem Node.ofMembers_eq_value_iff {members : Record.Members} {node : Node} :
    Node.ofMembers members = .value node ↔
      members.lookup "id" = some (.ofRaw node.id) ∧
      (members.lookup "name" = some (.str node.name) ∧ node.name ≠ "") ∧
      members.lookup "type" = some (.ofRaw node.type) ∧
      Stands members "type_version"
        (fun json => Record.whole json = .value node.typeVersion ∧ 1 ≤ node.typeVersion)
        (node.typeVersion = 1) ∧
      Stands members "position" (fun json => Record.pair json = .value node.position)
        (node.position = (0, 0)) ∧
      Stands members "parameters" (· = .obj node.parameters) (node.parameters = []) ∧
      Stands members "credentials" (· = .ofOption credentialsJson node.credentials)
        (node.credentials = none) := by
  have hnatural : ∀ json : Json, ∀ n : Nat,
      (Record.wholeFrom 1 json).map Int.toNat = .value n ↔
        Record.whole json = .value n ∧ 1 ≤ n := fun json n => Record.natural_eq_value_iff
  simp only [Node.ofMembers, Checked.apply_eq_value_iff, Checked.fmap_eq_value_iff,
    Record.required_eq_value_iff, Record.optional_eq_value_iff, Record.raw_eq_value_iff,
    Record.nonempty_eq_value_iff, hnatural, Record.object_eq_value_iff,
    nullable_table_eq_value_iff]
  constructor
  · rintro ⟨_, _, ⟨_, _, ⟨_, _, ⟨_, _, ⟨_, _, ⟨_, _, ⟨_, ⟨_, hid, rfl⟩, rfl⟩,
      ⟨_, hname, rfl, named⟩, rfl⟩, ⟨_, htype, rfl⟩, rfl⟩, hversion, rfl⟩, hposition, rfl⟩,
      hparameters, rfl⟩, hcredentials, rfl⟩
    exact ⟨hid, ⟨hname, named⟩, htype, hversion, hposition, hparameters, hcredentials⟩
  · rintro ⟨hid, ⟨hname, named⟩, htype, hversion, hposition, hparameters, hcredentials⟩
    exact ⟨_, _, ⟨_, _, ⟨_, _, ⟨_, _, ⟨_, _, ⟨_, _, ⟨_, ⟨_, hid, rfl⟩, rfl⟩, ⟨_, hname, rfl, named⟩,
      rfl⟩, ⟨_, htype, rfl⟩, rfl⟩, hversion, rfl⟩, hposition, rfl⟩, hparameters, rfl⟩, hcredentials,
      rfl⟩

/-- Reading a position gives nothing but a position, which is read once more as two integers. -/
theorem readPosition_spec {members position : Record.Members}
    (h : readPosition members = .ok position) (pair : Int × Int) :
    (∀ other ≠ "position", position.lookup other = none) ∧
      (Stands position "position" (fun json => Record.pair json = .value pair) (pair = (0, 0)) ↔
        Stands members "position" (fun json => ∃ x y, json.parts? = some [x, y] ∧
          Record.whole x = .value pair.1 ∧ Record.whole y = .value pair.2) (pair = (0, 0))) := by
  rw [readPosition_eq_ok_iff] at h
  revert h
  unfold Stands
  cases members.lookup "position" with
  | none =>
    rintro rfl
    exact ⟨fun _ _ => rfl, Iff.rfl⟩
  | some json =>
    rintro ⟨items, hitems, rfl⟩
    refine ⟨fun other hne => by simp [hne], ?_⟩
    simp [Record.pair_eq_value_iff, hitems]

theorem readPosition_exists {members : Record.Members} {pair : Int × Int}
    (h : Stands members "position" (fun json => ∃ x y, json.parts? = some [x, y] ∧
      Record.whole x = .value pair.1 ∧ Record.whole y = .value pair.2) (pair = (0, 0))) :
    ∃ position, readPosition members = .ok position := by
  revert h
  unfold Stands readPosition
  cases members.lookup "position" with
  | none => exact fun _ => ⟨_, rfl⟩
  | some json =>
    rintro ⟨x, y, hparts, -⟩
    exact ⟨_, map_eq_ok_iff.mpr ⟨_, parts_eq_ok_iff.mpr hparts, rfl⟩⟩

theorem lookup_given (members : Record.Members) (id name type : Json) {position : Record.Members}
    (hposition : ∀ other ≠ "position", position.lookup other = none) :
    let given := [("id", id), ("name", name), ("type", type)]
      ++ renamed members "typeVersion" "type_version" ++ position
      ++ renamed members "parameters" "parameters"
      ++ renamed members "credentials" "credentials"
    given.lookup "id" = some id ∧ given.lookup "name" = some name ∧
    given.lookup "type" = some type ∧
    given.lookup "type_version" = members.lookup "typeVersion" ∧
    given.lookup "position" = position.lookup "position" ∧
    given.lookup "parameters" = members.lookup "parameters" ∧
    given.lookup "credentials" = members.lookup "credentials" := by
  simp [List.lookup_append, List.lookup_cons, lookup_renamed, lookup_renamed_of_ne, hposition]

theorem readNodeMembers_eq_ok_iff {members : Record.Members} {node : Node} :
    readNodeMembers members = .ok node ↔ node.Describes members := by
  simp only [readNodeMembers, bind_eq_ok_iff, key_eq_ok_iff, accept_eq_ok_iff,
    Node.ofMembers_eq_value_iff]
  constructor
  · rintro ⟨id, hid, name, hname, type, htype, position, hposition, hnode⟩
    obtain ⟨hothers, hpair⟩ := readPosition_spec hposition node.position
    obtain ⟨gid, gname, gtype, gversion, gposition, gparameters, gcredentials⟩ :=
      lookup_given members id name type hothers
    obtain ⟨nid, ⟨nname, named⟩, ntype, nversion, nposition, nparameters, ncredentials⟩ := hnode
    rw [gid] at nid
    rw [gname] at nname
    rw [gtype] at ntype
    exact {
      id := hid.trans nid
      name := hname.trans nname
      named
      type := htype.trans ntype
      typeVersion := (stands_congr gversion _ _).mp nversion
      position := hpair.mp ((stands_congr gposition _ _).mp nposition)
      parameters := (stands_congr gparameters _ _).mp nparameters
      credentials := (stands_congr gcredentials _ _).mp ncredentials }
  · intro describes
    obtain ⟨position, hposition⟩ := readPosition_exists describes.position
    obtain ⟨hothers, hpair⟩ := readPosition_spec hposition node.position
    obtain ⟨gid, gname, gtype, gversion, gposition, gparameters, gcredentials⟩ :=
      lookup_given members (.ofRaw node.id) (.str node.name) (.ofRaw node.type) hothers
    exact ⟨_, describes.id, _, describes.name, _, describes.type, position, hposition, gid,
      ⟨gname, describes.named⟩, gtype, (stands_congr gversion _ _).mpr describes.typeVersion,
      (stands_congr gposition _ _).mpr (hpair.mpr describes.position),
      (stands_congr gparameters _ _).mpr describes.parameters,
      (stands_congr gcredentials _ _).mpr describes.credentials⟩

theorem readNode_eq_ok_iff {json : Json} {node : Node} :
    readNode json = .ok node ↔ ∃ members, json = .obj members ∧ node.Describes members := by
  cases json <;> simp [readNode, readNodeMembers_eq_ok_iff, refuse]

/-- The edge stands for an object with these members. -/
structure Edge.Describes (members : Record.Members) (edge : Edge) : Prop where
  target : members.lookup "node" = some (.str edge.target)
  channel : Stands members "type" (· = .ofRaw edge.channel) (edge.channel = "main")
  input : Stands members "index" (fun json => Record.whole json = .value edge.input)
    (edge.input = 0)

theorem required_text_eq_value_iff {members : Record.Members} {name value : String}
    (whole : ∀ text, members.lookup name ≠ some (.torn text)) :
    Record.required members name Record.text = .value value ↔
      members.lookup name = some (.str value) := by
  rw [Record.required_eq_value_iff]
  cases hlookup : members.lookup name with
  | none => simp
  | some json =>
    cases json with
    | torn text => exact absurd hlookup (whole text)
    | _ => simp [Record.text]

theorem Edge.ofMembers_eq_value_iff {members : Record.Members} {edge : Edge}
    (whole : ∀ text, members.lookup "node" ≠ some (.torn text)) :
    Edge.ofMembers members = .value edge ↔ edge.Describes members := by
  have hnatural : ∀ (json : Json) (n : Nat), Record.natural json = .value n ↔
      Record.whole json = .value n := by
    intro json n
    refine (@Record.natural_eq_value_iff 0 json n).trans ?_
    simp
  simp only [Edge.ofMembers, Checked.apply_eq_value_iff, Checked.fmap_eq_value_iff,
    required_text_eq_value_iff whole, Record.optional_eq_value_iff, Record.raw_eq_value_iff,
    hnatural]
  constructor
  · rintro ⟨_, _, ⟨_, _, ⟨_, htarget, rfl⟩, hchannel, rfl⟩, hinput, rfl⟩
    exact ⟨htarget, hchannel, hinput⟩
  · rintro ⟨htarget, hchannel, hinput⟩
    exact ⟨_, _, ⟨_, _, ⟨_, htarget, rfl⟩, hchannel, rfl⟩, hinput, rfl⟩

theorem readEdge_eq_ok_iff {source : String} {json : Json} {edge : Edge} :
    readEdge source json = .ok edge ↔ ∃ members, json = .obj members ∧ edge.Describes members := by
  cases json with
  | obj members =>
    simp only [readEdge, Json.obj.injEq, exists_eq_left']
    split
    next text htorn =>
      refine ⟨fun he => by simp [refuse] at he, fun describes => ?_⟩
      simpa [htorn] using describes.target
    next hwhole => rw [accept_eq_ok_iff, Edge.ofMembers_eq_value_iff hwhole]
  | _ => simp [readEdge, refuse]

theorem readSlot_eq_ok_iff {source : String} {json : Json} {edges : List Edge} :
    readSlot source json = .ok edges ↔ ∃ items, json = .arr items ∧
      List.Forall₂ (fun json edge => readEdge source json = .ok edge) items edges := by
  cases json <;> simp [readSlot, mapM_eq_ok_iff, refuse]

/-- Slots give the edges of all of them, one slot after the other. -/
theorem mapM_readSlot_eq_ok_iff {source : String} {slots : List Json} {edges : List Edge} :
    (∃ groups, slots.mapM (readSlot source) = .ok groups ∧ groups.flatten = edges) ↔
      ∃ lists : List (List Json), slots = lists.map .arr ∧
        List.Forall₂ (fun json edge => readEdge source json = .ok edge) lists.flatten edges := by
  simp only [mapM_eq_ok_iff, readSlot_eq_ok_iff]
  constructor
  · rintro ⟨groups, hgroups, rfl⟩
    induction hgroups with
    | nil => exact ⟨[], rfl, .nil⟩
    | cons hslot _ ih =>
      obtain ⟨items, rfl, hitems⟩ := hslot
      obtain ⟨lists, rfl, hlists⟩ := ih
      exact ⟨items :: lists, rfl, List.rel_append hitems hlists⟩
  · rintro ⟨lists, rfl, hlists⟩
    induction lists generalizing edges with
    | nil =>
      cases hlists
      exact ⟨[], .nil, rfl⟩
    | cons items lists ih =>
      rw [List.flatten_cons] at hlists
      have hfirst := (List.forall₂_take_append _ _ _ hlists.flip).flip
      obtain ⟨groups, hgroups, hflat⟩ := ih (List.forall₂_drop_append _ _ _ hlists.flip).flip
      refine ⟨edges.take items.length :: groups, .cons ⟨items, rfl, hfirst⟩ hgroups, ?_⟩
      rw [List.flatten_cons, hflat, List.take_append_drop]

/-- The edges stand for the objects in the slots of the main channel, slot by slot. -/
def DescribesEdges (channels : Json) (edges : List Edge) : Prop :=
  ∃ (members : Record.Members) (lists : List (List Json)), channels = .obj members ∧
    ((members.lookup "main").getD (.arr [])).parts? = some (lists.map .arr) ∧
    List.Forall₂ (fun json edge => ∃ members, json = .obj members ∧ edge.Describes members)
      lists.flatten edges

theorem readChannels_eq_ok_iff {source : String} {json : Json} {edges : List Edge} :
    readChannels source json = .ok edges ↔ DescribesEdges json edges := by
  unfold DescribesEdges
  cases json with
  | obj members =>
    simp only [readChannels, bind_eq_ok_iff, map_eq_ok_iff, parts_eq_ok_iff,
      mapM_readSlot_eq_ok_iff, readEdge_eq_ok_iff]
    constructor
    · rintro ⟨_, hparts, lists, rfl, hlists⟩
      exact ⟨members, lists, rfl, hparts, hlists⟩
    · rintro ⟨_, lists, he, hparts, hlists⟩
      cases he
      exact ⟨_, hparts, lists, rfl, hlists⟩
  | _ => simp [readChannels, refuse]

theorem readConnections_eq_ok_iff {json : Json} {connections : List (String × List Edge)} :
    readConnections json = .ok connections ↔ ∃ members, json = .obj members ∧
      List.Forall₂ (fun member source => member.1 = source.1 ∧ DescribesEdges member.2 source.2)
        members connections := by
  have hmember : ∀ (member : String × Json) (source : String × List Edge),
      (readChannels member.1 member.2).map (fun edges => (member.1, edges)) = .ok source ↔
        member.1 = source.1 ∧ DescribesEdges member.2 source.2 := by
    rintro member ⟨name, edges⟩
    simp only [map_eq_ok_iff, readChannels_eq_ok_iff, Prod.mk.injEq]
    constructor
    · rintro ⟨_, hedges, hname, rfl⟩
      exact ⟨hname, hedges⟩
    · rintro ⟨hname, hedges⟩
      exact ⟨edges, hedges, hname, rfl⟩
  cases json <;> simp [readConnections, mapM_eq_ok_iff, hmember, refuse]

theorem readNodes_eq_ok_iff {members : Record.Members} {nodes : List Node} :
    readNodes members = .ok nodes ↔ ∃ items, members.lookup "nodes" = some (.arr items) ∧
      List.Forall₂ (fun json node => ∃ members, json = .obj members ∧ node.Describes members)
        items nodes := by
  unfold readNodes
  split
  next items h => simp [h, mapM_eq_ok_iff, readNode_eq_ok_iff]
  next h =>
    refine ⟨fun he => by simp [refuse] at he, fun ⟨items, hitems, _⟩ => ?_⟩
    exact absurd hitems (h items)

/-- Every name in the connections is a node's. -/
def Closed (graph : Graph) : Prop :=
  ∀ source ∈ graph.connections,
    source.1 ∈ graph.names ∧ ∀ edge ∈ source.2, edge.target ∈ graph.names

theorem unknownName?_eq_none_iff (graph : Graph) : graph.unknownName? = none ↔ graph.Closed := by
  simp [unknownName?, Closed]

theorem readMetadata_eq_value_iff {members metadata : Record.Members} :
    readMetadata members = .value metadata ↔ Stands members "meta"
      (fun json => if json.isPresent then json = .obj metadata else metadata = [])
      (metadata = []) := by
  unfold readMetadata Stands
  cases members.lookup "meta" with
  | none =>
    simp only [Checked.value.injEq]
    exact eq_comm
  | some json =>
    by_cases h : json.isPresent
    · simp [h, Record.object_eq_value_iff]
    · dsimp only
      rw [if_neg h, if_neg h, Checked.value.injEq]
      exact eq_comm

/-- The graph stands for an object with these members. -/
structure Describes (members : Record.Members) (graph : Graph) : Prop where
  id : members.lookup "id" = some (.ofRaw graph.id)
  name : members.lookup "name" = some (.ofRaw graph.name)
  nodes : ∃ items, members.lookup "nodes" = some (.arr items) ∧
    List.Forall₂ (fun json node => ∃ members, json = .obj members ∧ node.Describes members)
      items graph.nodes
  connections : ∃ entries, (members.lookup "connections").getD (.obj []) = .obj entries ∧
    List.Forall₂ (fun entry source => entry.1 = source.1 ∧ DescribesEdges entry.2 source.2)
      entries graph.connections
  active : Stands members "active" (fun json => Record.flag json = .value graph.active)
    (graph.active = false)
  settings : Stands members "settings" (· = .obj graph.settings) (graph.settings = [])
  tags : Stands members "tags" (· = .rawTexts graph.tags) (graph.tags = [])
  version : graph.version = readVersion members
  metadata : Stands members "meta"
    (fun json => if json.isPresent then json = .obj graph.metadata else graph.metadata = [])
    (graph.metadata = [])
  closed : graph.Closed

theorem refuseUnknown_eq_ok_iff {given graph : Graph} :
    (match given.unknownName? with
      | some name => refuse (.unknownNode name)
      | none => pure given) = .ok graph ↔ given = graph ∧ graph.Closed := by
  rw [← unknownName?_eq_none_iff]
  cases h : given.unknownName? with
  | none =>
    constructor
    · intro he
      obtain rfl := Except.ok.inj he
      exact ⟨rfl, h⟩
    · rintro ⟨rfl, -⟩
      rfl
  | some name =>
    constructor
    · intro he
      simp [refuse] at he
    · rintro ⟨rfl, hnone⟩
      rw [hnone] at h
      simp at h

theorem readMembers_eq_ok_iff {members : Record.Members} {graph : Graph} :
    readMembers members = .ok graph ↔ graph.Describes members := by
  simp only [readMembers, bind_eq_ok_iff, readNodes_eq_ok_iff, key_eq_ok_iff,
    readConnections_eq_ok_iff, accept_eq_ok_iff, Checked.apply_eq_value_iff,
    Checked.fmap_eq_value_iff, Checked.pure_eq_value_iff, Record.raw_eq_value_iff,
    Record.optional_eq_value_iff, Record.object_eq_value_iff, Record.list_raw_eq_value_iff,
    readMetadata_eq_value_iff]
  constructor
  · rintro ⟨nodes, nodes_stand, id, hid, name, hname, connections, connections_stand, _,
      ⟨_, metadata, ⟨_, version, ⟨_, tags, ⟨_, settings, ⟨_, active, ⟨_, _, ⟨_, _, ⟨_, _,
      ⟨_, hid', rfl⟩, hname', rfl⟩, rfl, rfl⟩, rfl, rfl⟩, hactive, rfl⟩, hsettings, rfl⟩, htags,
      rfl⟩, hversion, rfl⟩, hmetadata, rfl⟩, hgiven⟩
    obtain ⟨rfl, closed⟩ := refuseUnknown_eq_ok_iff.mp hgiven
    exact ⟨by rw [hid, hid'], by rw [hname, hname'], nodes_stand, connections_stand, hactive,
      hsettings, htags, hversion.symm, hmetadata, closed⟩
  · intro describes
    exact ⟨_, describes.nodes, _, describes.id, _, describes.name, _, describes.connections, graph,
      ⟨_, _, ⟨_, _, ⟨_, _, ⟨_, _, ⟨_, _, ⟨_, _, ⟨_, _, ⟨_, _, ⟨_, rfl, rfl⟩, rfl, rfl⟩, rfl, rfl⟩,
      rfl, rfl⟩, describes.active, rfl⟩, describes.settings, rfl⟩, describes.tags, rfl⟩,
      describes.version.symm, rfl⟩, describes.metadata, rfl⟩,
      refuseUnknown_eq_ok_iff.mpr ⟨rfl, describes.closed⟩⟩

theorem ofDocument_eq_ok_iff {json : Json} {graph : Graph} :
    ofDocument json = .ok graph ↔ ∃ members, json = .obj members ∧ graph.Describes members := by
  cases json <;> simp [ofDocument, readMembers_eq_ok_iff, refuse]

end Graph

end Flowplan
