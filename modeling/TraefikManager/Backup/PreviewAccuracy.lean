import TraefikManager.Backup.Preview
import TraefikManager.Foundation.Upsert
import TraefikManager.Proxy.Consistency

/-!
# What the preview says and what the import does

The preview looks every entry up in what is stored when it is computed, the import in what
the entries before it left. The two agree unless a domain that is new occurs twice. The
preview also resolves the references of an entry as they are written, the import the
normalized ones.
-/

namespace TraefikManager.Backup

open Foundation Domain Traefik Proxy

section Definitions

/-- The tables as their schema keeps them: identifiers and domains name their rows. -/
structure WellKeyed (database : Database) : Prop where
  services : Table.Keyed Service.id (·.domain.value) database.services
  redirectHosts : Table.Keyed RedirectHost.id (·.domain.value) database.redirectHosts

/-- The identifiers a loop draws for its entries are new. -/
def DrawsNew (environment : ProxyEnvironment) (loop : Loop) (count : Nat) (stored : List Uuid) :
    Prop :=
  ((List.range count).map (environment.newIdInRound loop) ++ stored).Nodup

/-- The identifiers of both loops are new. -/
structure Fresh (environment : ProxyEnvironment) (payload : BackupPayload) (database : Database) :
    Prop where
  services : DrawsNew environment .importServices payload.services.length
    (database.services.map (·.id))
  redirectHosts : DrawsNew environment .importRedirectHosts payload.redirectHosts.length
    (database.redirectHosts.map (·.id))

/-- A group of the preview against the domains stored before and after an import, and
against the statistics of the import. -/
structure BackupPreviewGroup.Accurate (group : BackupPreviewGroup) (before after : List String)
    (created updated deleted : Nat) : Prop where
  domains : ∀ domain, domain ∈ after ↔
    domain ∈ group.creates.map (·.domain) ∨
      domain ∈ before ∧ domain ∉ group.deletes.map (·.domain)
  updatesStored : ∀ item ∈ group.updates, item.domain ∈ before
  deletesStored : ∀ item ∈ group.deletes, item.domain ∈ before
  creates : group.creates.length = created
  updates : group.updates.length = updated
  deletes : group.deletes.length = deleted

/-- The preview lists what the import did. -/
structure BackupPreview.Accurate (preview : BackupPreview) (before after : Database)
    (result : BackupImportResult) : Prop where
  services : preview.services.Accurate (before.services.map (·.domain.value))
    (after.services.map (·.domain.value)) result.createdServices result.updatedServices
    result.deletedServices
  redirectHosts : preview.redirectHosts.Accurate (before.redirectHosts.map (·.domain.value))
    (after.redirectHosts.map (·.domain.value)) result.createdRedirects result.updatedRedirects
    result.deletedRedirects

/-- What the loops of an import find stored. -/
def kept {α : Type} (mode : ImportMode) (stored : List α) : List α :=
  if mode = .overwrite then [] else stored

/-- The domains of the entries that the loops do not find stored. -/
def newDomains (mode : ImportMode) (stored domains : List String) : List String :=
  domains.filter (· ∉ kept mode stored)

/-- Every reference of the document resolves as it is written. -/
def Resolvable (database : Database) (payload : BackupPayload) : Prop :=
  ∀ item ∈ payload.services, ∃ templates,
    resolvedTemplates database item.middlewareTemplateIds = .ok templates

/-- What an accurate preview rests on. -/
structure Foreseeable (mode : ImportMode) (payload : BackupPayload) (database : Database) :
    Prop where
  resolvable : Resolvable database payload
  services : (newDomains mode (database.services.map (·.domain.value))
    (payload.services.map (·.domain))).Nodup
  redirectHosts : (newDomains mode (database.redirectHosts.map (·.domain.value))
    (payload.redirectHosts.map (·.domain))).Nodup

end Definitions

section Group

private theorem mem_domains_sortPreviewItems {items : List BackupPreviewItem} {domain : String} :
    domain ∈ (sortPreviewItems items).map (·.domain) ↔ domain ∈ items.map (·.domain) := by
  unfold sortPreviewItems
  simp only [List.mem_map, List.mem_insertionSort]

private theorem length_sortPreviewItems (items : List BackupPreviewItem) :
    (sortPreviewItems items).length = items.length := by
  unfold sortPreviewItems
  exact List.length_insertionSort _ _

private theorem mem_sortPreviewItems {items : List BackupPreviewItem} {item : BackupPreviewItem} :
    item ∈ sortPreviewItems items ↔ item ∈ items := by
  unfold sortPreviewItems
  exact List.mem_insertionSort _

/-- How many entries the preview takes for new. -/
theorem length_newDomains (mode : ImportMode) (stored : List String)
    (items : List BackupPreviewItem) :
    (items.filter (·.domain ∉ kept mode stored)).length =
      (newDomains mode stored (items.map (·.domain))).length := by
  unfold newDomains
  rw [List.filter_map, List.length_map]
  rfl

variable {mode : ImportMode} {items existing : List BackupPreviewItem} {after : List String}
  {count : Nat}

/-- **A group is accurate when no new domain occurs twice.** The loop of the import adds
the domains of its entries to what it finds, and counts how many of them it found. -/
theorem previewGroup_accurate_iff
    (added : ∀ domain, domain ∈ after ↔
      domain ∈ items.map (·.domain) ∨ domain ∈ kept mode (existing.map (·.domain)))
    (counted : count + ((items.map (·.domain)).toFinset \
      (kept mode (existing.map (·.domain))).toFinset).card = items.length) :
    (previewGroup mode items existing).Accurate (existing.map (·.domain)) after
        (items.length - count) count (if mode = .overwrite then existing.length else 0) ↔
      (newDomains mode (existing.map (·.domain)) (items.map (·.domain))).Nodup := by
  have agree : (newDomains mode (existing.map (·.domain)) (items.map (·.domain))).length =
      ((items.map (·.domain)).toFinset \ (kept mode (existing.map (·.domain))).toFinset).card ↔
        (newDomains mode (existing.map (·.domain)) (items.map (·.domain))).Nodup :=
    Table.length_filter_eq_card_iff _ _
  rw [← agree]
  cases mode with
  | overwrite =>
      have everyNew : (newDomains .overwrite (existing.map (·.domain))
          (items.map (·.domain))).length = items.length := by
        simp [newDomains, kept]
      rw [everyNew]
      constructor
      · intro accurate
        have noneFound : count = 0 := by simpa [previewGroup] using accurate.updates.symm
        omega
      · intro same
        have noneFound : count = 0 := by omega
        refine
          { domains := ?_
            updatesStored := by simp [previewGroup]
            deletesStored := ?_
            creates := ?_
            updates := by simp [previewGroup, noneFound]
            deletes := by simp [previewGroup, length_sortPreviewItems] }
        · intro domain
          rw [added domain]
          simp only [previewGroup, mem_domains_sortPreviewItems, kept, ↓reduceIte,
            List.not_mem_nil, or_false, and_not_self]
        · intro item listed
          exact List.mem_map.mpr ⟨item, mem_sortPreviewItems.mp listed, rfl⟩
        · rw [noneFound]
          exact length_sortPreviewItems items
  | merge =>
      have newCount := length_newDomains .merge (existing.map (·.domain)) items
      simp only [kept, reduceCtorEq, ↓reduceIte] at added counted newCount ⊢
      have parts : items.length = (items.filter (·.domain ∈ existing.map (·.domain))).length +
          (items.filter (·.domain ∉ existing.map (·.domain))).length := by
        have split := items.length_eq_length_filter_add
          fun item => decide (item.domain ∈ existing.map (·.domain))
        simpa only [decide_not] using split
      rw [newCount] at parts
      constructor
      · intro accurate
        have found : (items.filter (·.domain ∈ existing.map (·.domain))).length = count := by
          simpa [previewGroup, length_sortPreviewItems] using accurate.updates
        omega
      · intro same
        refine
          { domains := ?_
            updatesStored := ?_
            deletesStored := by simp [previewGroup]
            creates := ?_
            updates := ?_
            deletes := by simp [previewGroup] }
        · intro domain
          rw [added domain]
          simp only [previewGroup, mem_domains_sortPreviewItems, List.map_nil, List.not_mem_nil,
            not_false_eq_true, and_true]
          by_cases stored : domain ∈ existing.map (·.domain)
          · simp only [stored, or_true]
          · simp only [stored, or_false]
            constructor
            · intro isEntry
              obtain ⟨item, listed, rfl⟩ := List.mem_map.mp isEntry
              exact List.mem_map.mpr ⟨item, List.mem_filter.mpr ⟨listed, decide_eq_true stored⟩, rfl⟩
            · intro isNew
              obtain ⟨item, listed, rfl⟩ := List.mem_map.mp isNew
              exact List.mem_map.mpr ⟨item, (List.mem_filter.mp listed).1, rfl⟩
        · intro item listed
          have isUpdate := mem_sortPreviewItems.mp listed
          simpa using (List.mem_filter.mp isUpdate).2
        · show (sortPreviewItems _).length = _
          rw [length_sortPreviewItems, newCount]
          omega
        · show (sortPreviewItems _).length = _
          rw [length_sortPreviewItems]
          omega

end Group

section Previewing

/-- Nothing but its data makes a call of this environment raise. -/
def Undisturbed (environment : ProxyEnvironment) : Prop :=
  ∀ step, environment.fails step = none

variable {environment : ProxyEnvironment} {session : ProxySession}

private theorem ensures_resolve (undisturbed : Undisturbed environment)
    (templateIds : List String) : Program.Ensures (resolve environment templateIds)
      (fun templates next => next = session ∧
        resolvedTemplates session.working templateIds = .ok templates)
      (fun failure next => next = session ∧
        resolvedTemplates session.working templateIds = .error failure) session := by
  unfold resolve resolvedTemplates
  by_cases none : templateIds = []
  · rw [if_pos none, if_pos none, Program.ensures_pure]
    exact ⟨rfl, rfl⟩
  · rw [if_neg none, if_neg none]
    simp only [Program.ensures_bind, Program.ensures_ofExcept, ensures_query]
    cases parseTemplateIds templateIds with
    | error failure =>
        refine ⟨?_, ?_⟩
        · intro ids impossible
          cases impossible
        · intro raised same
          cases same
          exact ⟨trivial, rfl⟩
    | ok ids =>
        refine ⟨?_, ?_⟩
        · intro parsed same
          cases same
          refine ⟨fun _ => ⟨fun found isFound => ⟨trivial, isFound⟩, fun raised isRaised =>
            ⟨trivial, isRaised⟩⟩, ?_⟩
          intro failure raised
          rw [undisturbed] at raised
          cases raised
        · intro raised impossible
          cases impossible

/-- The validator passes a document exactly when every reference resolves as written. -/
theorem ensures_validateServices (undisturbed : Undisturbed environment) (seen : List String)
    (items : List BackupServiceItem) :
    Program.Ensures (validateServices environment seen items)
      (fun _ next => next = session ∧ ∀ item ∈ items, ∃ templates,
        resolvedTemplates session.working item.middlewareTemplateIds = .ok templates)
      (fun _ next => next = session ∧ ¬ ∀ item ∈ items, ∃ templates,
        resolvedTemplates session.working item.middlewareTemplateIds = .ok templates) session := by
  induction items generalizing seen with
  | nil =>
      unfold validateServices
      rw [Program.ensures_pure]
      simp
  | cons item rest ih =>
      unfold validateServices
      rw [Program.ensures_bind]
      refine (ensures_resolve undisturbed item.middlewareTemplateIds).mono ?_ ?_
      · intro templates next resolved
        obtain ⟨rfl, isResolved⟩ := resolved
        rw [Program.ensures_bind]
        refine (ih (item.domain :: seen)).mono ?_ ?_
        · intro warnings last passed
          rw [Program.ensures_pure]
          refine ⟨passed.1, ?_⟩
          intro other listed
          rcases List.mem_cons.mp listed with rfl | later
          · exact ⟨templates, isResolved⟩
          · exact passed.2 other later
        · intro failure last refused
          refine ⟨refused.1, fun all => refused.2 ?_⟩
          exact fun other later => all other (List.mem_cons_of_mem _ later)
      · intro failure next refused
        refine ⟨refused.1, fun all => ?_⟩
        obtain ⟨templates, isResolved⟩ := all item (by simp)
        rw [refused.2] at isResolved
        cases isResolved

/-- The preview as a request: it answers exactly for resolvable documents, from what is
stored, and changes nothing. -/
theorem ensures_previewBackup (undisturbed : Undisturbed environment) (mode : ImportMode)
    (payload : BackupPayload) (session : ProxySession) :
    Program.Ensures (previewBackup environment mode payload)
      (fun preview next => next.stored = session.stored ∧ Resolvable session.stored payload ∧
        ∃ validation, preview = buildPreview mode payload validation session.stored.services
          session.stored.redirectHosts)
      (fun _ next => next.stored = session.stored ∧ ¬ Resolvable session.stored payload)
      session := by
  unfold previewBackup request
  rw [Session.ensures_transaction, Program.ensures_tryCatch]
  unfold previewBackupImport validateBackupPayload
  simp only [Program.ensures_bind]
  refine (ensures_validateServices undisturbed [] payload.services).mono ?_ ?_
  · intro warnings next passed
    obtain ⟨rfl, resolvable⟩ := passed
    simp only [Program.ensures_pure, ensures_query, ensures_commit]
    simp only [undisturbed .findAllServices, undisturbed .findAllRedirectHosts,
      undisturbed .commit]
    refine ⟨fun _ => ⟨fun _ => ⟨fun _ => ⟨rfl, resolvable, _, rfl⟩, ?_⟩, ?_⟩, ?_⟩
    · intro failure impossible
      cases impossible
    · intro failure impossible
      cases impossible
    · intro failure impossible
      cases impossible
  · intro failure next refused
    obtain ⟨rfl, unresolvable⟩ := refused
    -- Each kind of error is raised again, with or without an answer of its own.
    cases failure <;>
      · dsimp only
        rw [Program.ensures_throw]
        exact ⟨rfl, unresolvable⟩

end Previewing

section Importing

variable {environment : ProxyEnvironment}

/-- The identifiers the rounds of a loop would draw, each with the domain it looks up. -/
def draws {α : Type} (environment : ProxyEnvironment) (loop : Loop) (wanted : α → String)
    (round : Nat) (items : List α) : List (Uuid × String) :=
  (items.zipIdx round).map fun entry => (environment.newIdInRound loop entry.2, wanted entry.1)

private theorem draws_domains {α : Type} (loop : Loop) (wanted : α → String) (round : Nat)
    (items : List α) : (draws environment loop wanted round items).map Prod.snd = items.map wanted := by
  induction items generalizing round with
  | nil => rfl
  | cons item rest ih =>
      have later := ih (round + 1)
      unfold draws at later ⊢
      rw [List.zipIdx_cons, List.map_cons, List.map_cons, later, List.map_cons]

private theorem draws_ids {α : Type} (loop : Loop) (wanted : α → String) (items : List α) :
    (draws environment loop wanted 0 items).map Prod.fst =
      (List.range items.length).map (environment.newIdInRound loop) := by
  unfold draws
  rw [List.map_map, List.range_eq_range', ← List.zipIdx_map_snd 0 items, List.map_map]
  rfl

/-- The rule of the import loops for what their entries upsert, and leave alone. -/
theorem transacts_importEach_upserts {α ρ γ : Type} (loop : Loop) {wanted : α → String}
    {upsert : ProxyEnvironment → α → ProxyProgram Bool} {rows : Database → List ρ}
    {key : ρ → Uuid} {column : ρ → String} {rest : Database → γ}
    (upserts : ∀ item during, Session.Transacts (upsert during item) (fun before found after =>
      Table.Upserted key column during.newId (wanted item) (rows before.1) found (rows after.1) ∧
        rest after.1 = rest before.1))
    (round : Nat) (items : List α) :
    Session.Transacts (importEach environment loop upsert round items) (fun before count after =>
      Table.UpsertRun key column (draws environment loop wanted round items) (rows before.1) count
          (rows after.1) ∧ rest after.1 = rest before.1) := by
  induction items generalizing round with
  | nil =>
      refine (Session.transacts_pure _).mono ?_
      rintro before _ after ⟨rfl, rfl⟩
      exact ⟨.nil, rfl⟩
  | cons item others ih =>
      unfold importEach
      refine (upserts item _).bind fun updated => ?_
      refine (ih (round + 1)).bind fun count => ?_
      refine (Session.transacts_pure _).mono ?_
      rintro second _ after ⟨rfl, rfl⟩ first ⟨later, laterRest⟩ before ⟨now, nowRest⟩
      exact ⟨.cons now later, laterRest.trans nowRest⟩

theorem transacts_upsertService_upserts (item : BackupServiceItem) :
    Session.Transacts (upsertService environment item) (fun before found after =>
      Table.Upserted Service.id (·.domain.value) environment.newId item.domain before.1.services
          found after.1.services ∧ after.1.redirectHosts = before.1.redirectHosts) := by
  refine (transacts_upsertService_answer item).mono ?_
  rintro before found after ⟨service, ⟨rfl, existing, listed, had, updated⟩ | ⟨rfl, missing, created⟩,
    -, written⟩
  · obtain ⟨isEntry, sameId⟩ := fromEntry_of_updated updated had
    rw [written]
    exact ⟨.update listed had sameId isEntry.domain, rfl⟩
  · rw [written]
    exact ⟨.create missing (id_of_createdImport created) (fromEntry_of_created created).domain, rfl⟩

private theorem identity_of_createdRedirect {domain targetUrl : String}
    {permanent tlsEnabled : Bool} {id : Uuid} {redirectHost : RedirectHost}
    (created : RedirectHost.create domain targetUrl permanent tlsEnabled id = .ok redirectHost) :
    redirectHost.id = id ∧ redirectHost.domain.value = domain := by
  simp only [RedirectHost.create, bind_eq_ok] at created
  obtain ⟨_, made, _, -, isRedirect⟩ := created
  cases isRedirect
  exact ⟨rfl, DomainName.make_ok made⟩

theorem transacts_upsertRedirect_upserts (item : BackupRedirectHostItem) :
    Session.Transacts (upsertRedirect environment item) (fun before found after =>
      Table.Upserted RedirectHost.id (·.domain.value) environment.newId item.domain
          before.1.redirectHosts found after.1.redirectHosts ∧
        after.1.services = before.1.services) := by
  refine (transacts_upsertRedirect_answer item).mono ?_
  rintro before found after ⟨redirectHost,
    ⟨rfl, existing, listed, had, updated⟩ | ⟨rfl, missing, created⟩, written⟩
  · obtain ⟨sameId, stays | ⟨given, -⟩⟩ := domain_of_redirectUpdate updated
    · rw [written]
      exact ⟨.update listed had sameId (by rw [stays, had]), rfl⟩
    · rw [written]
      exact ⟨.update listed had sameId (Option.some.inj given).symm, rfl⟩
  · obtain ⟨isNew, hasDomain⟩ := identity_of_createdRedirect created
    rw [written]
    exact ⟨.create missing isNew hasDomain, rfl⟩

/-- One kind of resource before and after an import, and its statistics. -/
structure ImportedRows {ρ : Type} (key : ρ → Uuid) (column : ρ → String) (mode : ImportMode)
    (entries : List (Uuid × String)) (before after : List ρ) (created updated deleted : Nat) :
    Prop where
  run : Table.UpsertRun key column entries (kept mode before) updated after
  created : created = entries.length - updated
  deleted : deleted = if mode = .overwrite then before.length else 0

/-- An import as two runs of upserts. -/
structure ImportRun (environment : ProxyEnvironment) (mode : ImportMode) (payload : BackupPayload)
    (before after : Database) (result : BackupImportResult) : Prop where
  services : ImportedRows Service.id (·.domain.value) mode
    (draws environment .importServices (·.domain) 0 payload.services) before.services
    after.services result.createdServices result.updatedServices result.deletedServices
  redirectHosts : ImportedRows RedirectHost.id (·.domain.value) mode
    (draws environment .importRedirectHosts (·.domain) 0 payload.redirectHosts)
    before.redirectHosts after.redirectHosts result.createdRedirects result.updatedRedirects
    result.deletedRedirects

private theorem length_draws {α : Type} (loop : Loop) (wanted : α → String) (round : Nat)
    (items : List α) : (draws environment loop wanted round items).length = items.length := by
  simp [draws]

private theorem transacts_importAll_run (mode : ImportMode) (payload : BackupPayload) :
    Session.Transacts (importAll environment mode payload) (fun before result after =>
      ImportRun environment mode payload before.1 after.1 result) := by
  have loops : ∀ deleted : Nat × Nat, Session.Transacts (do
      let updatedServices ← importEach environment .importServices upsertService 0 payload.services
      let updatedRedirects ←
        importEach environment .importRedirectHosts upsertRedirect 0 payload.redirectHosts
      syncSharedMiddlewareTemplates environment
      pure
        { mode, updatedServices, updatedRedirects
          deletedServices := deleted.1, deletedRedirects := deleted.2
          createdServices := payload.services.length - updatedServices
          createdRedirects := payload.redirectHosts.length - updatedRedirects :
          BackupImportResult }) (fun cleared result after => ∀ before : Database,
            cleared.1.services = kept mode before.services →
            cleared.1.redirectHosts = kept mode before.redirectHosts →
            deleted = (if mode = .overwrite then before.services.length else 0,
              if mode = .overwrite then before.redirectHosts.length else 0) →
            ImportRun environment mode payload before after.1 result) := by
    intro deleted
    refine (transacts_importEach_upserts _ (fun item during =>
      transacts_upsertService_upserts item) _ _).bind fun updatedServices => ?_
    refine (transacts_importEach_upserts _ (fun item during =>
      transacts_upsertRedirect_upserts item) _ _).bind fun updatedRedirects => ?_
    refine transacts_syncSharedMiddlewareTemplates.bind fun _ => ?_
    refine (Session.transacts_pure _).mono ?_
    rintro third _ after ⟨rfl, rfl⟩ second same first ⟨redirectRun, sameServices⟩ cleared
      ⟨serviceRun, sameRedirects⟩ before servicesKept redirectsKept isDeleted
    rw [servicesKept] at serviceRun
    rw [sameRedirects, redirectsKept] at redirectRun
    rw [← sameServices] at serviceRun
    subst isDeleted
    rw [same]
    exact
      { services := ⟨serviceRun, by rw [length_draws], rfl⟩
        redirectHosts := ⟨redirectRun, by rw [length_draws], rfl⟩ }
  unfold importAll
  refine .ite (fun overwrites => ?_) (fun merges => ?_)
  · refine transacts_deleteExisting_counts.bind fun deleted => (loops deleted).mono ?_
    intro cleared result after run before removed
    refine run before.1 ?_ ?_ ?_
    · rw [removed.2, kept, if_pos overwrites]
    · rw [removed.2, kept, if_pos overwrites]
    · rw [if_pos overwrites, if_pos overwrites]
      exact removed.1
  · refine (Session.transacts_pure _).bind fun deleted => (loops deleted).mono ?_
    intro cleared result after run before same
    refine run before.1 ?_ ?_ ?_
    · rw [same.2, kept, if_neg merges]
    · rw [same.2, kept, if_neg merges]
    · rw [if_neg merges, if_neg merges]
      exact same.1

end Importing

section Accuracy

variable {mode : ImportMode} {payload : BackupPayload} {before after : Database}
  {result : BackupImportResult}

private theorem keyed_kept {ρ : Type} {key : ρ → Uuid} {column : ρ → String} {rows : List ρ}
    (keyed : Table.Keyed key column rows) (mode : ImportMode) :
    Table.Keyed key column (kept mode rows) := by
  unfold kept
  split
  · exact Table.keyed_nil
  · exact keyed

private theorem kept_map {α β : Type} (mode : ImportMode) (change : α → β) (stored : List α) :
    (kept mode stored).map change = kept mode (stored.map change) := by
  unfold kept
  split <;> rfl

/-- What a group of the preview says of a kind that was imported. -/
theorem ImportedRows.accurate_iff {ρ : Type} {key : ρ → Uuid} {column : ρ → String}
    {entries : List (Uuid × String)} {before after : List ρ} {created updated deleted : Nat}
    (imported : ImportedRows key column mode entries before after created updated deleted)
    (keyed : Table.Keyed key column before)
    (fresh : (entries.map Prod.fst ++ before.map key).Nodup)
    (items existing : List BackupPreviewItem)
    (sameItems : items.map (·.domain) = entries.map Prod.snd)
    (sameStored : existing.map (·.domain) = before.map column) :
    (previewGroup mode items existing).Accurate (before.map column) (after.map column) created
        updated deleted ↔
      (newDomains mode (before.map column) (entries.map Prod.snd)).Nodup := by
  have freshKept : (entries.map Prod.fst ++ (kept mode before).map key).Nodup := by
    rw [kept_map]
    unfold kept
    split
    · simpa using (List.nodup_append.mp fresh).1
    · exact fresh
  have wasKeyed := keyed_kept keyed mode
  have sameLength : items.length = entries.length := by
    simpa using congrArg List.length sameItems
  have sameStoredLength : existing.length = before.length := by
    simpa using congrArg List.length sameStored
  rw [imported.created, imported.deleted, ← sameStored, ← sameItems, ← sameLength,
    ← sameStoredLength]
  refine previewGroup_accurate_iff ?_ ?_
  · intro domain
    rw [imported.run.mem_column wasKeyed freshKept, kept_map, sameItems, sameStored]
  · rw [sameItems, sameStored, sameLength, ← kept_map]
    exact imported.run.count_add_card wasKeyed freshKept

/-- What the preview says of an import that ran. -/
theorem ImportRun.accurate_iff {environment : ProxyEnvironment}
    (run : ImportRun environment mode payload before after result) (keyed : WellKeyed before)
    (fresh : Fresh environment payload before) (validation : BackupValidation) :
    (buildPreview mode payload validation before.services before.redirectHosts).Accurate before
        after result ↔
      (newDomains mode (before.services.map (·.domain.value))
        (payload.services.map (·.domain))).Nodup ∧
      (newDomains mode (before.redirectHosts.map (·.domain.value))
        (payload.redirectHosts.map (·.domain))).Nodup := by
  have freshServices := fresh.services
  have freshRedirects := fresh.redirectHosts
  unfold DrawsNew at freshServices freshRedirects
  rw [← draws_ids .importServices (·.domain)] at freshServices
  rw [← draws_ids .importRedirectHosts (·.domain)] at freshRedirects
  have services := run.services.accurate_iff keyed.services freshServices
    (payload.services.map serializePreviewServiceItem)
    (before.services.map fun service =>
      { domain := service.domain.value, name := some service.name })
    (by rw [draws_domains, List.map_map]; rfl) (by rw [List.map_map]; rfl)
  have redirectHosts := run.redirectHosts.accurate_iff keyed.redirectHosts freshRedirects
    (payload.redirectHosts.map serializePreviewRedirectItem)
    (before.redirectHosts.map fun redirectHost => { domain := redirectHost.domain.value })
    (by rw [draws_domains, List.map_map]; rfl) (by rw [List.map_map]; rfl)
  rw [draws_domains] at services redirectHosts
  rw [← services, ← redirectHosts]
  constructor
  · intro accurate
    exact ⟨accurate.services, accurate.redirectHosts⟩
  · intro both
    exact ⟨both.1, both.2⟩

variable {previewing importing : ProxyEnvironment} {session final : ProxySession}

/-- A successful import, as runs of upserts on what was stored. -/
theorem importRun_of_imported
    (imported : importBackup importing mode payload session = .ok result final) :
    ImportRun importing mode payload session.stored final.stored result :=
  (ensures_request_of_transacts (transacts_importAction (transacts_importAll_run mode payload))
    session).of_ok imported

/-- A preview was computed in this session, and it lists what led to these tables and this
result. -/
def AccuratelyPreviewed (previewing : ProxyEnvironment) (mode : ImportMode)
    (payload : BackupPayload) (session : ProxySession) (after : Database)
    (result : BackupImportResult) : Prop :=
  ∃ preview middle, previewBackup previewing mode payload session = .ok preview middle ∧
    preview.Accurate session.stored after result

/-- A preview is computed for resolvable documents, and leaves the stored tables alone. -/
theorem previewBackup_cases (undisturbed : Undisturbed previewing) (mode : ImportMode)
    (payload : BackupPayload) (session : ProxySession) :
    (Program.finalState (previewBackup previewing mode payload) session).stored = session.stored ∧
      ((Resolvable session.stored payload ∧ ∃ validation middle,
        previewBackup previewing mode payload session = .ok (buildPreview mode payload validation
          session.stored.services session.stored.redirectHosts) middle) ∨
      ¬ Resolvable session.stored payload ∧ ∀ preview middle,
        previewBackup previewing mode payload session ≠ .ok preview middle) := by
  have ensured := ensures_previewBackup undisturbed mode payload session
  unfold Program.finalState
  cases outcome : previewBackup previewing mode payload session with
  | ok preview middle =>
      obtain ⟨same, resolvable, validation, rfl⟩ := ensured.of_ok outcome
      exact ⟨same, .inl ⟨resolvable, validation, middle, rfl⟩⟩
  | error failure middle =>
      obtain ⟨same, unresolvable⟩ := ensured.of_error outcome
      refine ⟨same, .inr ⟨unresolvable, ?_⟩⟩
      intro preview other impossible
      cases impossible

/-- **The preview is accurate exactly for foreseeable documents.** When an import succeeds
right after a preview, the preview was computed and lists what the import did if and only
if every reference of the document resolves as it is written and no domain that the import
does not find stored occurs twice among the entries of a kind. -/
theorem accuratelyPreviewed_iff (undisturbed : Undisturbed previewing)
    (keyed : WellKeyed session.stored) (fresh : Fresh importing payload session.stored)
    (imported : importBackup importing mode payload
      (Program.finalState (previewBackup previewing mode payload) session) = .ok result final) :
    AccuratelyPreviewed previewing mode payload session final.stored result ↔
      Foreseeable mode payload session.stored := by
  obtain ⟨same, outcome⟩ := previewBackup_cases undisturbed mode payload session
  have run := importRun_of_imported imported
  rw [same] at run
  constructor
  · intro accurately
    obtain ⟨preview, middle, previewed, accurate⟩ := accurately
    rcases outcome with ⟨resolvable, validation, other, previewed'⟩ | ⟨-, notPreviewed⟩
    · rw [previewed'] at previewed
      cases previewed
      obtain ⟨services, redirectHosts⟩ := (run.accurate_iff keyed fresh validation).mp accurate
      exact ⟨resolvable, services, redirectHosts⟩
    · exact absurd previewed (notPreviewed preview middle)
  · intro foreseeable
    rcases outcome with ⟨-, validation, middle, previewed⟩ | ⟨unresolvable, -⟩
    · refine ⟨_, middle, previewed, ?_⟩
      exact (run.accurate_iff keyed fresh validation).mpr
        ⟨foreseeable.services, foreseeable.redirectHosts⟩
    · exact absurd foreseeable.resolvable unresolvable

/-- An entry of a service behind `domain`. -/
def shopEntry (domain : String) : BackupServiceItem :=
  { name := "shop", domain, upstreamHost := "app", upstreamPort := 8080, authEnabled := false }

def redirectEntry (domain : String) : BackupRedirectHostItem :=
  { domain, targetUrl := "https://www.example.com" }

/-- One service and one redirect host are stored. -/
def storedShop : ProxySession :=
  Program.finalState (importBackup {} .merge
    { services := [shopEntry "shop.example.com"]
      redirectHosts := [redirectEntry "old.example.com"] }) emptySession

/-- A document that lists the stored service twice, a new service and a new redirect host. -/
def shopsAndRedirect : BackupPayload :=
  { services := [shopEntry "shop.example.com", shopEntry "new.example.com",
      shopEntry "shop.example.com"]
    redirectHosts := [redirectEntry "new-old.example.com"] }

/-- An import that draws other identifiers. -/
def laterIds : ProxyEnvironment :=
  { newIdInRound := fun _ round => ⟨BitVec.ofNat 128 (round + 10)⟩ }

/-- A document that lists one new domain twice. -/
def shopTwice : BackupPayload :=
  { services := [shopEntry "shop.example.com", shopEntry "shop.example.com"] }

/-- The preview of two updates and two creations lists what the import did. -/
theorem accuratelyPreviewed_iff_example : ∃ result final,
    importBackup laterIds .merge shopsAndRedirect (Program.finalState
      (previewBackup {} .merge shopsAndRedirect) storedShop) = .ok result final ∧
    AccuratelyPreviewed {} .merge shopsAndRedirect storedShop final.stored result ∧
    final.stored.services.map (·.domain.value) = ["shop.example.com", "new.example.com"] ∧
    final.stored.redirectHosts.map (·.domain.value) =
      ["old.example.com", "new-old.example.com"] := by
  obtain ⟨result, imported⟩ := Program.exists_ok_of_succeeds
    (show Program.succeeds (importBackup laterIds .merge shopsAndRedirect) (Program.finalState
      (previewBackup {} .merge shopsAndRedirect) storedShop) = true by decide +kernel)
  have undisturbed : Undisturbed {} := fun _ => rfl
  have keyed : WellKeyed storedShop.stored := by
    constructor <;> constructor <;> decide +kernel
  have fresh : Fresh laterIds shopsAndRedirect storedShop.stored := by
    constructor
    · show List.Nodup _
      decide +kernel
    · show List.Nodup _
      decide +kernel
  refine ⟨result, _, imported,
    (accuratelyPreviewed_iff undisturbed keyed fresh imported).mpr ⟨?_, ?_, ?_⟩, ?_, ?_⟩
  · have noTemplates : ∀ item ∈ shopsAndRedirect.services, item.middlewareTemplateIds = [] := by
      decide
    intro item listed
    exact ⟨[], by rw [noTemplates item listed]; rfl⟩
  all_goals decide +kernel

/-- The preview of a new domain that is listed twice lists two creations, and the import
creates one service and updates it. -/
theorem not_accuratelyPreviewed :
    ¬ ∀ (previewing importing : ProxyEnvironment) (mode : ImportMode) (payload : BackupPayload)
        (session final : ProxySession) (result : BackupImportResult), Undisturbed previewing →
      WellKeyed session.stored → Fresh importing payload session.stored →
      importBackup importing mode payload
          (Program.finalState (previewBackup previewing mode payload) session) =
        .ok result final →
      AccuratelyPreviewed previewing mode payload session final.stored result := by
  intro always
  obtain ⟨result, imported⟩ := Program.exists_ok_of_succeeds
    (show Program.succeeds (importBackup {} .merge shopTwice) (Program.finalState
      (previewBackup {} .merge shopTwice) emptySession) = true by decide +kernel)
  have undisturbed : Undisturbed {} := fun _ => rfl
  have keyed : WellKeyed emptySession.stored := ⟨Table.keyed_nil, Table.keyed_nil⟩
  have fresh : Fresh {} shopTwice emptySession.stored := by
    constructor
    · show List.Nodup _
      decide
    · show List.Nodup _
      decide
  obtain ⟨preview, middle, previewed, accurate⟩ :=
    always {} {} .merge shopTwice emptySession _ result undisturbed keyed fresh imported
  obtain ⟨same, ⟨-, validation, other, previewed'⟩ | ⟨-, notPreviewed⟩⟩ :=
    previewBackup_cases undisturbed .merge shopTwice emptySession
  · rw [previewed'] at previewed
    cases previewed
    have run := importRun_of_imported imported
    rw [same] at run
    have distinct := ((run.accurate_iff keyed fresh validation).mp accurate).1
    revert distinct
    decide
  · exact notPreviewed preview middle previewed

end Accuracy

end TraefikManager.Backup
