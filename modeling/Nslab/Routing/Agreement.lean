import Nslab.Routing.Isolation
import Nslab.Routing.Ledger

/-! A finished start is ready, starts nothing again and can be stopped: the metadata
that it writes is what the validators and the readers look for. -/

namespace Nslab

open Filesystem

section Reading

/-- Sorting keys leaves the entries of a document where they are found. -/
theorem decoded_lookup {entries : List (String × Document)} (distinct : (entries.map Prod.fst).Nodup) :
    ∃ sorted, (Document.dict entries).decoded = .dict sorted ∧
      ∀ name value, entries.lookup name = some value → sorted.lookup name = some value.decoded := by
  obtain ⟨sorted, shape, perm⟩ := Document.mapping_reshape entries false true false
  have unique : (sorted.map Prod.fst).Nodup := by
    rw [(perm.map Prod.fst).nodup_iff, Document.keys_reshape]
    exact distinct
  refine ⟨sorted, shape, fun name value given => ?_⟩
  have member : (name, value) ∈ entries := Dict.get?_iff.mp (show (Dict.mk entries distinct).get? name = some value from given)
  exact Document.lookup_of_mem unique (perm.mem_iff.mpr (List.mem_map.mpr ⟨_, member, rfl⟩))

variable {plan : TopologyPlan} {node : NodePlan} {records seen : List ProcessRecord}

/-- A record in the metadata. -/
def ProcessRecord.document (record : ProcessRecord) : Document := .dict [("daemon", .str record.daemon), ("pid", .int record.pid)]

theorem recordOf_document {record : ProcessRecord} (known : record.daemon ∈ frrDaemons) (positive : 0 < record.pid) :
    FrrRuntime.recordOf record.document.decoded = some record := by
  obtain ⟨sorted, shape, found⟩ := @decoded_lookup [("daemon", .str record.daemon), ("pid", .int record.pid)] (by simp)
  have daemon := found "daemon" _ rfl
  have pid := found "pid" _ rfl
  simp only [Document.decoded, Document.reshape] at daemon pid
  rw [ProcessRecord.document, shape, FrrRuntime.recordOf, daemon, pid]
  simp [FrrRuntime.recordFromFields, known, positive]

/-- A host reads the metadata of a node as it was written. -/
theorem Host.Orderly.loads {host : Host} (orderly : host.Orderly plan) (bounds : ∀ record ∈ records, 0 < record.pid ∧ record.pid < 2 ^ 31) :
    host.loads (metadataText plan node records) = some (metadataDocument plan node records).decoded := by
  have genuine : (metadataDocument plan node records).genuine = true := by simp [metadataDocument, Document.genuine]
  have finite : (metadataDocument plan node records).finite = true := by simp [metadataDocument, Document.finite]
  have short : (metadataDocument plan node records).short = true := by
    have digits : ∀ record ∈ records, (Nat.toDigits 10 record.pid.natAbs).length ≤ JsonText.maxDigits := by
      intro record member
      have bound := bounds record member
      have few : (Nat.toDigits 10 record.pid.natAbs).length ≤ 10 :=
        (Nat.length_toDigits_le_iff (by decide) (by decide)).mpr (by omega)
      exact few.trans (by decide)
    have one : (Nat.toDigits 10 1).length ≤ JsonText.maxDigits := by decide
    simpa [metadataDocument, Document.short, one] using digits
  obtain ⟨parseConstant, reads⟩ := orderly.reads
  have legible : (metadataDocument plan node records).decoded.Legible := Document.legible_reshape finite genuine short true
  have read := (@JsonReader.loads_pretty parseConstant true _ legible).2
  rw [reads, metadataText, JsonText.dumpsIndented_eq, read]
  rfl

theorem expectedRecords_documents {expected : List String} (distinct : expected.Nodup)
    (complete : (seen ++ records).map (·.daemon) = expected) (known : ∀ record ∈ records, record.daemon ∈ frrDaemons ∧ 0 < record.pid) :
    FrrRuntime.expectedRecords expected (records.map (·.document.decoded)) seen = true := by
  induction records generalizing seen with
  | nil =>
    rw [List.append_nil] at complete
    have same : seen.length = expected.length := by rw [← complete, List.length_map]
    rw [List.map_nil, FrrRuntime.expectedRecords, complete]
    simp [same]
  | cons record records ih =>
    have own := known record List.mem_cons_self
    have member : record.daemon ∈ expected := by simp [← complete]
    have fresh : record.daemon ∉ seen.map (·.daemon) := by
      rw [← complete, List.map_append, List.map_cons, List.nodup_append] at distinct
      exact fun old => distinct.2.2 _ old _ List.mem_cons_self rfl
    rw [List.map_cons, FrrRuntime.expectedRecords, recordOf_document own.1 own.2]
    simp only [member, fresh, not_true_eq_false, or_self, if_false]
    exact ih (by simpa using complete) fun other listed => known other (List.mem_cons_of_mem _ listed)

theorem foldl_addRecord (distinct : ((seen ++ records).map (·.daemon)).Nodup) :
    records.foldl FrrRuntime.addRecord seen = seen ++ records := by
  induction records generalizing seen with
  | nil => simp
  | cons record records ih =>
    have fresh : record.daemon ∉ seen.map (·.daemon) := by
      rw [List.map_append, List.map_cons, List.nodup_append] at distinct
      exact fun old => distinct.2.2 _ old _ List.mem_cons_self rfl
    rw [List.foldl_cons, FrrRuntime.addRecord, if_neg fresh, ih (by simpa using distinct), List.append_assoc, List.singleton_append]

/-- Records of daemons that are known already add nothing. -/
theorem foldl_addRecord_known (known : ∀ record ∈ records, record.daemon ∈ seen.map (·.daemon)) :
    records.foldl FrrRuntime.addRecord seen = seen := by
  induction records with
  | nil => rfl
  | cons record records ih =>
    rw [List.foldl_cons, FrrRuntime.addRecord, if_pos (known record List.mem_cons_self)]
    exact ih fun other listed => known other (List.mem_cons_of_mem _ listed)

theorem expectedDaemons_nodup : (FrrRuntime.expectedDaemons node).Nodup := by
  simp only [FrrRuntime.expectedDaemons, routingDaemons]
  cases node.routing with
  | none => simp
  | some routing =>
    obtain ⟨ospf, bgp, pim⟩ := routing
    cases ospf <;> cases bgp <;> cases pim <;> simp

end Reading

section Running

variable {plan : TopologyPlan} {node : NodePlan} {files : RuntimeFiles} {books : NodePlan → List ProcessRecord}
  {host : Host} {runtime : FrrRuntime} {started : List Int}

/-- The books of a finished start. -/
structure Accounted (plan : TopologyPlan) (books : NodePlan → List ProcessRecord) (started : List Int) : Prop where
  daemons : ∀ node ∈ plan.routingNodes, (books node).map (·.daemon) = FrrRuntime.expectedDaemons node
  bounds : ∀ node, ∀ record ∈ books node, record.pid ∈ started ∧ 0 < record.pid ∧ record.pid < 2 ^ 31

theorem Accounted.filled (accounted : Accounted plan books started) (routing : node ∈ plan.routingNodes) : books node ≠ [] := by
  intro empty
  have daemons := accounted.daemons node routing
  simp [empty, FrrRuntime.expectedDaemons] at daemons

theorem Accounted.known (accounted : Accounted plan books started) (routing : node ∈ plan.routingNodes) :
    ∀ record ∈ books node, record.daemon ∈ frrDaemons ∧ 0 < record.pid := by
  intro record member
  have listed : record.daemon ∈ FrrRuntime.expectedDaemons node :=
    accounted.daemons node routing ▸ List.mem_map_of_mem member
  exact ⟨expected_daemons _ listed, (accounted.bounds node record member).2.1⟩

/-- The metadata of a node, as a host reads it. -/
theorem Ledger.read (ledger : Ledger plan books none [] files) (orderly : host.Orderly plan) (accounted : Accounted plan books started)
    (routing : node ∈ plan.routingNodes) : files.isSymlink (metadataPath plan node) = false ∧
      (files.readUtf8 (metadataPath plan node)).toOption.bind host.loads =
        some (metadataDocument plan node (books node)).decoded := by
  have stored := ledger.metadata node routing
  rw [if_neg (accounted.filled routing)] at stored
  have plain : files.isSymlink (metadataPath plan node) = false := by simp [isSymlink, stored, Entry.isSymlink]
  have text : files.readUtf8 (metadataPath plan node) = .ok (metadataText plan node (books node)) := by
    simp [readUtf8, follow_of_plain plain, stored]
  refine ⟨plain, ?_⟩
  rw [text]
  exact orderly.loads fun record member => (accounted.bounds node record member).2

theorem Ledger.directory (ledger : Ledger plan books none [] files) (accounted : Accounted plan books started)
    (routing : node ∈ plan.routingNodes) : files.get? (nodeDir plan node) = some .directory := by
  have stored := ledger.metadata node routing
  rw [if_neg (accounted.filled routing)] at stored
  exact files.rooted_get? stored

/-- The entries of the metadata. -/
theorem metadata_entries (plan : TopologyPlan) (node : NodePlan) (records : List ProcessRecord) :
    ∃ sorted, (metadataDocument plan node records).decoded = .dict sorted ∧ sorted.lookup "version" = some (.int 1) ∧
      sorted.lookup "fingerprint" = some (.str plan.fingerprint) ∧ sorted.lookup "node" = some (.str node.name) ∧
      sorted.lookup "namespace" = some (.str node.netns) ∧ sorted.lookup "pathspace" = some (.str (routingPathspace plan node)) ∧
      sorted.lookup "protocols" = some (.list ((routingProtocols node.routing).map .str)) ∧
      sorted.lookup "processes" = some (.list (records.map (·.document.decoded))) := by
  obtain ⟨sorted, shape, found⟩ := @decoded_lookup [("version", .int 1), ("fingerprint", .str plan.fingerprint),
    ("node", .str node.name), ("namespace", .str node.netns), ("pathspace", .str (routingPathspace plan node)),
    ("protocols", .list ((routingProtocols node.routing).map .str)),
    ("processes", .list (records.map ProcessRecord.document))] (by simp)
  refine ⟨sorted, shape, found "version" _ rfl, found "fingerprint" _ rfl, found "node" _ rfl, found "namespace" _ rfl,
    found "pathspace" (.str (routingPathspace plan node)) rfl, ?_, ?_⟩
  · rw [found "protocols" _ rfl]
    simp [Document.decoded, Document.reshape, Function.comp_def]
  · rw [found "processes" _ rfl]
    simp [Document.decoded, Document.reshape, Function.comp_def]

theorem Ledger.readRecords (ledger : Ledger plan books none [] files) (orderly : host.Orderly plan)
    (accounted : Accounted plan books started) (routing : node ∈ plan.routingNodes) :
    FrrRuntime.readRecords host files plan node = books node := by
  obtain ⟨plain, read⟩ := ledger.read orderly accounted routing
  obtain ⟨sorted, shape, _, _, _, _, _, _, processes⟩ := metadata_entries plan node (books node)
  have directory := ledger.directory accounted routing
  have unlinked : files.isSymlink (nodeDir plan node) = false := by simp [isSymlink, directory, Entry.isSymlink]
  have known := accounted.known routing
  have parsed : ((books node).map (·.document.decoded)).filterMap FrrRuntime.recordOf = books node := by
    rw [List.filterMap_map]
    refine (List.filterMap_congr fun record member => ?_).trans List.filterMap_some
    exact recordOf_document (known record member).1 (known record member).2
  simp only [FrrRuntime.readRecords, unlinked, (isDir_of_plain unlinked).mpr directory, plain, read, shape, processes, parsed,
    Bool.not_true, Bool.or_self, Bool.false_eq_true, if_false]
  have distinct : ((books node).map (·.daemon)).Nodup := accounted.daemons node routing ▸ expectedDaemons_nodup
  have recorded : (books node).foldl FrrRuntime.addRecord [] = books node := @foldl_addRecord (books node) [] (by simpa using distinct)
  rw [recorded]
  apply foldl_addRecord_known
  intro record member
  obtain ⟨daemon, listed, found⟩ := List.mem_filterMap.mp member
  rw [accounted.daemons node routing]
  by_cases expected : daemon ∈ FrrRuntime.expectedDaemons node
  · split at found
    next => cases found
    next =>
      split at found
      next =>
        obtain ⟨_, same⟩ := Option.ite_none_right_eq_some.mp found
        exact Option.some.inj same ▸ expected
      next => cases found
  · -- There is no pid file of a daemon that the node does not run.
    have absent := ledger.strangers node routing daemon listed expected
    have unlinked : files.isSymlink (.child (nodeDir plan node) (daemon ++ ".pid")) = false := by simp [isSymlink, absent]
    simp [unlinked, readAscii, readUtf8, follow_of_plain unlinked, absent, Bind.bind, Except.bind, Except.toOption] at found

theorem Ledger.metadataMatches (ledger : Ledger plan books none [] files) (orderly : host.Orderly plan)
    (accounted : Accounted plan books started) (routing : node ∈ plan.routingNodes) :
    runtime.metadataMatches host files plan node = true := by
  obtain ⟨plain, read⟩ := ledger.read orderly accounted routing
  obtain ⟨sorted, shape, version, fingerprint, name, netns, pathspace, protocols, processes⟩ :=
    metadata_entries plan node (books node)
  have settled := ledger.layout.sound.settled
  have listed := mem_below routing
  simp only [TopologyPlan.nodeDirectories, List.mem_cons, List.not_mem_nil, or_false, forall_eq_or_imp, forall_eq] at listed
  have present {path : RuntimePath} {marker : String} (owned : Settled files path marker)
      (directory : files.get? path = some .directory) : runtime.validateManagedDirectory files path marker = .ok true := by
    refine validateManagedDirectory_ok.mpr (.inr ⟨rfl, owned.resolve_left fun absent => ?_⟩)
    simp [directory] at absent
  have deployment : runtime.validateRuntimeArtifacts files plan = .ok false :=
    validateRuntimeArtifacts_ok.mpr (.inr (.inl ⟨rfl, ledger.layout.runtime⟩))
  have own := present (settled _ listed.1) (ledger.directory accounted routing)
  have state := present (settled _ listed.2.1) (ledger.states node routing (by simp))
  obtain ⟨found, config⟩ := (@exists_validateManagedDirectory runtime _ _ _).mpr (settled _ listed.2.2)
  have there : files.lexists (deploymentDir plan) = true := lexists_iff.mpr ⟨_, ledger.layout.runtime.marked.directory⟩
  have expected := @expectedRecords_documents (books node) [] _ (@expectedDaemons_nodup node)
    (by simpa using accounted.daemons node routing) (accounted.known routing)
  simp only [FrrRuntime.metadataMatches, there, deployment, own, state, config, plain, read, shape, version, fingerprint, name, netns,
    pathspace, protocols, processes, expected]
  cases files.lexists (vtyConfigDir plan node) <;> simp [Bind.bind, Except.bind, Except.toOption, equalsInt]

end Running

section Watching

/-- Files after the daemons have acted, on orderly hosts. -/
inductive Since (plan : TopologyPlan) (start : RuntimeFiles) : RuntimeFiles → Prop where
  | start : Since plan start start
  | act {files : RuntimeFiles} {host : Host} (orderly : host.Orderly plan) (clock : Nat) (since : Since plan start files) :
    Since plan start (host.act clock files)

variable {plan other : TopologyPlan} {node : NodePlan} {files start : RuntimeFiles} {books : NodePlan → List ProcessRecord}
  {host : Host} {runtime : FrrRuntime} {started : List Int} {origin : World}

theorem Since.trans {middle : RuntimeFiles} (first : Since plan start middle) (next : Since plan middle files) :
    Since plan start files := by
  induction next with
  | start => exact first
  | act orderly clock _ ih => exact ih.act orderly clock

theorem Ledger.since {before after : RuntimeFiles} (ledger : Ledger plan books none [] before) (since : Since plan before after) :
    Ledger plan books none [] after := by
  induction since with
  | start => exact ledger
  | act orderly clock _ ih => exact Ledger.leaves orderly clock _ ih

/-- A world in which daemons have acted since, and nothing has been started, signalled or removed. -/
structure Watched (plan : TopologyPlan) (books : NodePlan → List ProcessRecord) (origin world : World) : Prop where
  ledger : Ledger plan books none [] world.files
  since : Since plan origin.files world.files
  same : world = { origin with files := world.files, clock := world.clock }

theorem Watched.allAlive {records : List ProcessRecord} (orderly : host.Orderly plan)
    (alive : ∀ clock, ∀ record ∈ records, host.pidExists clock record.pid = true) :
    Action.Triple (Watched plan books origin) (FrrRuntime.allAlive host records) (fun found world => Watched plan books origin world ∧
      found = true) fun _ _ => False := by
  induction records with
  | nil => exact fun _ watched => ⟨watched, rfl⟩
  | cons record records ih =>
    have observed : Action.Triple (Watched plan books origin) (host.observe (host.pidExists · record.pid))
        (fun found world => Watched plan books origin world ∧ found = true) fun _ _ => False := by
      intro world watched
      refine ⟨⟨Ledger.leaves orderly _ _ watched.ledger, watched.since.act orderly _, ?_⟩, alive _ _ List.mem_cons_self⟩
      rw [watched.same]
      rfl
    apply Action.Triple.bind observed
    intro found world given
    obtain ⟨watched, same⟩ := given
    subst same
    exact ih (fun clock other listed => alive clock other (List.mem_cons_of_mem _ listed)) world watched

theorem Watched.statusForNode (orderly : host.Orderly plan) (accounted : Accounted plan books started)
    (alive : ∀ clock, ∀ pid ∈ started, host.pidExists clock pid = true) (routing : node ∈ plan.routingNodes) :
    Action.Triple (Watched plan books origin) (runtime.statusForNode host plan node)
      (fun status world => Watched plan books origin world ∧ status.ready = true) fun _ _ => False := by
  have read : Action.Triple (Watched plan books origin) (look (FrrRuntime.readRecords host · plan node))
      (fun records world => Watched plan books origin world ∧ records = books node) fun _ _ => False :=
    fun _ watched => ⟨watched, watched.ledger.readRecords orderly accounted routing⟩
  have matched : Action.Triple (Watched plan books origin) (look (runtime.metadataMatches host · plan node))
      (fun known world => Watched plan books origin world ∧ known = true) fun _ _ => False :=
    fun _ watched => ⟨watched, watched.ledger.metadataMatches orderly accounted routing⟩
  have living := @Watched.allAlive plan books host origin (books node) orderly fun clock record member =>
    alive clock _ (accounted.bounds node record member).1
  apply Action.Triple.bind read
  intro records world given
  obtain ⟨watched, same⟩ := given
  subst same
  refine Action.Triple.bind matched (fun known world given => ?_) world watched
  obtain ⟨watched, same⟩ := given
  subst same
  refine Action.Triple.bind living (fun found world given => ?_) world watched
  obtain ⟨watched, same⟩ := given
  subst same
  have daemons := accounted.daemons node routing
  refine ⟨watched, ?_⟩
  simp only [daemons, Bool.true_and, Bool.and_eq_true, List.all_eq_true, List.contains_iff_mem]
  exact ⟨fun record member => daemons ▸ List.mem_map_of_mem member, fun daemon member => member⟩

/-- A deployment all of whose daemons live is ready. -/
theorem Watched.ready (orderly : host.Orderly plan) (accounted : Accounted plan books started)
    (alive : ∀ clock, ∀ pid ∈ started, host.pidExists clock pid = true) :
    Action.Triple (Watched plan books origin) (runtime.ready host plan)
      (fun reply world => Watched plan books origin world ∧ reply = true) fun _ _ => False := by
  have statuses := @Action.Triple.fold World Raised _ _ (fun _ _ => False) (fun statuses node => do
    let status ← runtime.statusForNode host plan node
    pure (statuses ++ [status])) (fun _ statuses world => Watched plan books origin world ∧ statuses.all (·.ready) = true)
    plan.routingNodes ?_ []
  · apply Action.Triple.bind (Action.Triple.weaken statuses (fun _ watched => ⟨watched, rfl⟩) (fun _ _ given => given) fun _ _ => id)
    exact fun _ _ given => given
  · intro node rest statuses suffix world given
    obtain ⟨watched, all⟩ := given
    have extended (status : RoutingStatus) : Action.Triple (fun world => Watched plan books origin world ∧ status.ready = true)
        (pure (statuses ++ [status]) : Runs (List RoutingStatus))
        (fun statuses world => Watched plan books origin world ∧ statuses.all (·.ready) = true) fun _ _ => False := by
      intro final ended
      refine ⟨ended.1, ?_⟩
      rw [List.all_append, all, List.all_cons, ended.2]
      rfl
    exact Action.Triple.bind (Watched.statusForNode orderly accounted alive (suffix.subset List.mem_cons_self)) extended world watched

theorem appended_inj {before left right after : String} (equal : before ++ left ++ after = before ++ right ++ after) : left = right :=
  (String.append_right_inj before).mp ((String.append_left_inj after).mp equal)

theorem runtimeMarker_inj (same : other.name = plan.name) (equal : runtimeMarker other = runtimeMarker plan) :
    other.fingerprint = plan.fingerprint := by
  unfold runtimeMarker at equal
  rw [same] at equal
  exact appended_inj equal

theorem metadataMatches_other (marked : Marked files (deploymentDir plan) (runtimeMarker plan)) (same : other.name = plan.name)
    (differ : other.fingerprint ≠ plan.fingerprint) : runtime.metadataMatches host files other node = false := by
  have place : deploymentDir other = deploymentDir plan := by rw [deploymentDir, deploymentDir, same]
  have there : files.lexists (deploymentDir other) = true := lexists_iff.mpr ⟨_, place ▸ marked.directory⟩
  cases validated : runtime.validateRuntimeArtifacts files other with
  | error issue => simp [FrrRuntime.metadataMatches, there, validated, Bind.bind, Except.bind, Except.toOption]
  | ok legacy =>
    exfalso
    obtain absent | own | older := validateRuntimeArtifacts_ok.mp validated
    · simp [place, marked.directory] at absent
    · have stored := own.2.marked.marker
      rw [place, marked.marker, Option.some.injEq, Entry.file.injEq, Except.ok.injEq] at stored
      exact differ (runtimeMarker_inj same stored.symm)
    · have unmarked := older.2.2.unmarked
      simp [place, marked.marker] at unmarked

/-- Nothing is ready where another configuration has left its marker. -/
theorem ready_other {world : World} (marked : Marked world.files (deploymentDir plan) (runtimeMarker plan))
    (same : other.name = plan.name) (differ : other.fingerprint ≠ plan.fingerprint) (routed : other.routingNodes ≠ []) :
    runtime.ready host other world = (.ok false, world) := by
  have each (node : NodePlan) (statuses : List RoutingStatus) : ∃ status : RoutingStatus, status.ready = false ∧ (do
      let status ← runtime.statusForNode host other node
      pure (statuses ++ [status]) : Runs (List RoutingStatus)) world = (.ok (statuses ++ [status]), world) := by
    refine ⟨⟨node.name, routingProtocols node.routing, false, (FrrRuntime.readRecords host world.files other node).map (·.pid)⟩,
      rfl, ?_⟩
    simp [FrrRuntime.statusForNode, look, Action.inspect, Bind.bind, Action.andThen, Pure.pure, Action.done,
      @metadataMatches_other plan other node _ host runtime marked same differ]
  have none : ∀ (nodes : List NodePlan) (statuses : List RoutingStatus), (∀ status ∈ statuses, status.ready = false) →
      ∃ all, Action.fold (fun statuses node => do
        let status ← runtime.statusForNode host other node
        pure (statuses ++ [status])) nodes statuses world = (.ok all, world) ∧ all.length = statuses.length + nodes.length ∧
        ∀ status ∈ all, status.ready = false := by
    intro nodes
    induction nodes with
    | nil => exact fun statuses unready => ⟨statuses, rfl, rfl, unready⟩
    | cons node nodes ih =>
      intro statuses unready
      obtain ⟨status, idle, run⟩ := each node statuses
      obtain ⟨all, rest, counted, last⟩ := ih (statuses ++ [status]) (by
        intro known member
        cases List.mem_append.mp member with
        | inl old => exact unready known old
        | inr new => exact List.mem_singleton.mp new ▸ idle)
      refine ⟨all, ?_, by simp [counted]; omega, last⟩
      rw [Action.fold]
      exact (Action.bind_of_ok run).trans rest
  obtain ⟨all, run, counted, idle⟩ := none other.routingNodes [] (by simp)
  have some : all ≠ [] := by
    intro empty
    rw [empty, List.length_nil, Nat.zero_add] at counted
    exact routed (List.length_eq_zero_iff.mp counted.symm)
  rw [FrrRuntime.ready, FrrRuntime.status, Action.bind_of_ok run]
  obtain ⟨status, member⟩ := List.exists_mem_of_ne_nil all some
  have unready : all.all (·.ready) = false := List.all_eq_false.mpr ⟨status, member, by simp [idle status member]⟩
  rw [unready]
  rfl

theorem Running.since {before after : RuntimeFiles} (running : Running plan started before) (since : Since plan before after) :
    Running plan started after := by
  obtain ⟨books, ledger, rest⟩ := running
  exact ⟨books, ledger.since since, rest⟩

end Watching

/-- What the files of a deployment tell that has been started with these processes. A second start only looks whether it is
ready. -/
structure Agrees (runtime : FrrRuntime) (plan : TopologyPlan) (started : List Int) (files : RuntimeFiles) : Prop where
  ready : ∀ (later : Host) (next : World), later.Orderly plan →
    (∀ clock, ∀ pid ∈ started, later.pidExists clock pid = true) → next.files = files →
      ∃ after, runtime.ready later plan next = (.ok true, after) ∧ runtime.start later plan next = (.ok (), after) ∧
        after = { next with files := after.files, clock := after.clock } ∧ Since plan next.files after.files
  stopped : ∀ (later : Host) (next : World), later.Tame plan → (∀ clock, next.clock ≤ clock → later.fails clock = none) →
    next.files = files → (runtime.stop later plan next).1 = .ok () ∧
      FrrRuntime.hasArtifacts (runtime.stop later plan next).2.files plan = false
  others : ∀ (other : TopologyPlan) (later : Host) (next : World), other.name = plan.name → other.fingerprint ≠ plan.fingerprint →
    other.routingNodes ≠ [] → next.files = files → runtime.ready later other next = (.ok false, next)

variable {runtime : FrrRuntime} {plan : TopologyPlan}

theorem Bare.hasArtifacts {files : RuntimeFiles} (bare : Bare plan files) : FrrRuntime.hasArtifacts files plan = false := by
  rw [FrrRuntime.hasArtifacts, Bool.or_eq_false_iff, List.any_eq_false]
  refine ⟨lexists_eq_false.mpr (bare _ List.mem_cons_self), fun node routing => ?_⟩
  obtain ⟨_, state, config⟩ := mem_managed routing
  simp [lexists_eq_false.mpr (bare _ state), lexists_eq_false.mpr (bare _ config)]

theorem Running.agrees {started : List Int} {files : RuntimeFiles} (running : Running plan started files) (named : plan.WellNamed)
    (routed : plan.routingNodes ≠ []) : Agrees runtime plan started files := by
  obtain ⟨books, ledger, daemons, bounds⟩ := running
  have accounted : Accounted plan books started := ⟨daemons, bounds⟩
  have sound := ledger.layout.sound
  have marked := ledger.layout.runtime.marked
  refine ⟨fun later next orderly alive same => ?_, fun later next tame works same => ?_, fun other later next name differ some same => ?_⟩
  · subst same
    have run := @Watched.ready plan books later runtime started next orderly accounted alive next ⟨ledger, .start, rfl⟩
    cases ready : runtime.ready later plan next with
    | mk reply after =>
      rw [ready] at run
      cases reply with
      | error raised => cases run
      | ok reply =>
        obtain ⟨watched, reply⟩ := run
        subst reply
        refine ⟨after, rfl, ?_, watched.same, watched.since⟩
        have looked : look (FrrRuntime.hasArtifacts · plan) next = (.ok true, next) := by
          have there := lexists_iff.mpr ⟨_, marked.directory⟩
          simp [look, Action.inspect, FrrRuntime.hasArtifacts, there]
        have checked : check (runtime.validateArtifacts · plan) next = (.ok false, next) := by
          simp [check, Action.inspect, sound_iff.mpr sound, Checks.mapIssue]
        rw [FrrRuntime.start, if_neg routed, Action.bind_of_ok looked, if_pos rfl, Action.bind_of_ok checked, Action.bind_of_ok ready]
        rfl
  · have stopped := @Sound.stop later plan runtime next.clock next.failure named tame next ⟨Nat.le_refl _, rfl, same ▸ sound⟩
    generalize runtime.stop later plan next = outcome at stopped ⊢
    obtain ⟨reply, final⟩ := outcome
    cases reply with
    | ok done => exact ⟨rfl, Bare.hasArtifacts stopped.files⟩
    | error issue =>
      obtain ⟨clock, fault, later, fails, _⟩ := stopped
      simp [works clock later] at fails
  · subst same
    exact ready_other marked name differ some

/-- A start that returns, with nothing of the plan there before, has started what is ready while its processes live, what no
second start starts again, what a stop removes, and what no other configuration of that name takes for its own. -/
theorem start_agrees (runtime : FrrRuntime) (host : Host) {manifest : Manifest} {nameOverride : Option String} {plan : TopologyPlan}
    (accepted : manifest.Accepted) (compiled : compilePlan manifest nameOverride = .ok plan) (orderly : host.Orderly plan)
    (routed : plan.routingNodes ≠ []) {world after : World} (absent : FrrRuntime.hasArtifacts world.files plan = false)
    (returned : runtime.start host plan world = (.ok (), after)) :
    ∀ files, Since plan after.files files → Agrees runtime plan after.started files := by
  have named := (accepted.plans compiled).wellNamed
  have run := @start_running host plan runtime named orderly routed world absent
  rw [returned] at run
  exact fun files since => (run.since since).agrees named routed

section Examples

/-- A host for a user other than root, on which all processes live and JSON is read as it is written. -/
def orderlyHost : Host := {
  userHost with
  pid := fun clock _ => clock % 30000 + 300
  pidExists := fun _ _ => true
  loads := fun text => (JsonReader.loads (fun name => .error (.constant name)) text).toOption }

theorem orderlyHost_orderly (plan : TopologyPlan) : orderlyHost.Orderly plan where
  tame _ _ change := by cases change
  pids clock _ := by
    have small : clock % 30000 < 30000 := Nat.mod_lt _ (by decide)
    simp only [orderlyHost]
    omega
  reads := ⟨_, fun _ => rfl⟩
  spares _ _ change := by cases change

/-- One node that speaks OSPF. -/
theorem start_agrees_lab : ∃ manifest plan after, validateManifest (routedDocument "lab" "r") = .ok manifest ∧
    compilePlan manifest none = .ok plan ∧ hastyRuntime.start orderlyHost plan { files := Filesystem.empty } = (.ok (), after) ∧
    Agrees hastyRuntime plan after.started after.files := by
  obtain ⟨manifest, plan, read, accepted, compiled, found⟩ := Manifest.compiled_of_test (routedDocument "lab" "r") (by decide +kernel)
    (fun plan => !plan.routingNodes.isEmpty && !FrrRuntime.hasArtifacts Filesystem.empty plan &&
      (hastyRuntime.start orderlyHost plan { files := Filesystem.empty }).1.isOk) (by decide +kernel)
  simp only [Bool.and_eq_true, Bool.not_eq_true', List.isEmpty_eq_false_iff] at found
  obtain ⟨⟨routed, absent⟩, finished⟩ := found
  cases outcome : hastyRuntime.start orderlyHost plan { files := Filesystem.empty } with
  | mk reply after =>
    rw [outcome] at finished
    cases reply with
    | error raised => cases finished
    | ok done =>
      refine ⟨manifest, plan, after, read, compiled, outcome, ?_⟩
      exact start_agrees hastyRuntime orderlyHost accepted compiled (orderlyHost_orderly plan) routed absent outcome _ .start

end Examples

end Nslab
