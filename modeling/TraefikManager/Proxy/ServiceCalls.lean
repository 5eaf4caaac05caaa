import TraefikManager.Proxy.ServiceUseCases

/-!
# What the service use cases leave behind

For each use case, what it leaves in the open transaction and among the published
files, whether it returns or raises. The stored data never changes before the
commit.
-/

namespace TraefikManager.Proxy

open Foundation Domain Traefik

section Congruence

variable {first second : Directory}

/-- What a write publishes depends on what was published before. -/
theorem published_writeService (same : published first = published second) (settings : Settings)
    (service : Service) (templates : List MiddlewareTemplate) :
    published (first.writeService settings service templates) =
      published (second.writeService settings service templates) := by
  rw [published_eq_iff] at same ⊢
  intro name own
  simp [same name own]

private theorem published_deleteService (same : published first = published second)
    (service : Service) :
    published (first.deleteService service) = published (second.deleteService service) := by
  rw [published_eq_iff] at same ⊢
  intro name own
  simp [Directory.deleteService, same name own]

/-- Removing a file that was just written is removing it. -/
theorem published_deleteService_writeService (same : published first = published second)
    (settings : Settings) (service : Service) (templates : List MiddlewareTemplate) :
    published ((first.writeService settings service templates).deleteService service) =
      published (second.deleteService service) := by
  rw [published_eq_iff] at same ⊢
  intro name own
  by_cases isFile : name = serviceFile service.domain
  · simp [Directory.deleteService, isFile]
  · simp [Directory.deleteService, isFile, same name own]

end Congruence

section Outcome

variable (environment : ProxyEnvironment)

/-- A service written to its file whose save failed. -/
structure OnlyWritten (session : ProxySession) (service : Service)
    (templates : List MiddlewareTemplate) (next : ProxySession) : Prop where
  failed : environment.fails .saveService ≠ none
  tables : tables next = tables session
  directory : published next.outside.directory =
    published (session.outside.directory.writeService environment.settings service templates)

/-- A service written to its file and saved. -/
structure Published (session : ProxySession) (service : Service)
    (templates : List MiddlewareTemplate) (next : ProxySession) : Prop where
  stored : next.stored = session.stored
  working : next.working =
    { session.working with services := Table.save Service.id session.working.services service }
  directory : published next.outside.directory =
    published (session.outside.directory.writeService environment.settings service templates)

/-- A service whose file was removed, and whose row at most. -/
structure Removed (session : ProxySession) (service : Service) (next : ProxySession) : Prop where
  stored : next.stored = session.stored
  directory : published next.outside.directory =
    published (session.outside.directory.deleteService service)

end Outcome

variable {environment : ProxyEnvironment} {session : ProxySession}

/-- Writing the file of a service and saving it, after steps that leave no visible trace. -/
theorem ensures_publish (environment : ProxyEnvironment) {before : ProxySession} (same : visible before = visible session)
    (service : Service) (templates : List MiddlewareTemplate) :
    Program.Ensures
      (do writeServiceFile environment service templates
          saveService environment service)
      (fun _ next => Published environment session service templates next)
      (fun _ next => visible next = visible session ∨
        OnlyWritten environment session service templates next) before := by
  simp only [visible, Prod.mk.injEq] at same
  obtain ⟨sameStored, sameWorking, sameFiles⟩ := same
  simp only [writeServiceFile, saveService, Program.ensures_bind, ensures_touchFile, ensures_write]
  refine ⟨fun _ => ⟨fun _ => ?_, fun _ failed => .inr ?_⟩, fun _ _ => .inl ?_⟩
  · exact ⟨sameStored, by rw [sameWorking], published_writeService sameFiles _ _ _⟩
  · exact ⟨by simp [failed], by simp [tables, sameStored, sameWorking],
      published_writeService sameFiles _ _ _⟩
  · simp [visible, sameStored, sameWorking, sameFiles]

/-- The last part of a creation: the service is published, or the call fails before its
file was touched, or after. -/
theorem ensures_publishCreatedService {before : ProxySession}
    (same : visible before = visible session) (service : Service)
    (templates : List MiddlewareTemplate) :
    Program.Ensures (publishCreatedService environment service templates)
      (fun _ next => Published environment session service templates next)
      (fun _ next => visible next = visible session ∨
        OnlyWritten environment session service templates next) before := by
  unfold publishCreatedService
  rw [Program.ensures_bind]
  refine (keeps_syncSharedMiddlewareTemplates.ensures before).mono ?_
    (fun _ _ same' => .inl (same'.trans same))
  rintro _ next ⟨same', -⟩
  exact ensures_publish environment (same'.trans same) service templates

/-- Compensating a failed creation removes the file, or leaves it when that fails too. -/
theorem ensures_undoCreatedService (environment : ProxyEnvironment) {before : ProxySession}
    {service : Service} (templates : List MiddlewareTemplate)
    (failed : visible before = visible session ∨
      OnlyWritten environment session service templates before) :
    Program.Ensures (undoCreatedService environment service)
      (fun _ next => visible next = visible session ∨
        OnlyWritten environment session service templates next ∨ Removed session service next)
      (fun _ next => visible next = visible session ∨
        OnlyWritten environment session service templates next ∨ Removed session service next)
      before := by
  unfold undoCreatedService
  simp only [Program.ensures_bind, Program.ensures_tryCatch, ensures_touchFile,
    Program.ensures_pure]
  have keeps : Program.Keeps onDisk (rollbackCloudflareRecord environment service)
      (fun _ _ => True) := keeps_rollbackCloudflareRecord service
  have rolledBack := keeps.ensures
  refine ⟨fun _ => ?_, fun _ _ => ?_⟩
  · have removed : ∀ next, onDisk next = onDisk
        { before with outside :=
          { before.outside with directory := before.outside.directory.deleteService service } } →
        Removed session service next := by
      intro next kept
      simp only [onDisk, Prod.mk.injEq] at kept
      obtain ⟨keptStored, -, keptFiles⟩ := kept
      rcases failed with untouched | written
      · simp only [visible, Prod.mk.injEq] at untouched
        exact ⟨keptStored.trans untouched.1,
          keptFiles ▸ published_deleteService untouched.2.2 service⟩
      · refine ⟨keptStored.trans (congrArg Prod.fst written.tables), ?_⟩
        rw [keptFiles, published_deleteService written.directory]
        exact published_deleteService_writeService rfl _ _ _
    refine (rolledBack _).mono ?_ ?_
    · exact fun _ next kept => .inr (.inr (removed next kept.1))
    · exact fun _ next kept => .inr (.inr (removed next kept))
  · have unchanged : ∀ next, onDisk next = onDisk before →
        visible next = visible session ∨
          OnlyWritten environment session service templates next ∨ Removed session service next := by
      intro next kept
      simp only [onDisk, Prod.mk.injEq] at kept
      obtain ⟨keptStored, keptWorking, keptFiles⟩ := kept
      rcases failed with untouched | written
      · refine .inl ?_
        rw [← untouched]
        simp [visible, keptStored, keptWorking, keptFiles]
      · refine .inr (.inl ⟨written.failed, ?_, keptFiles ▸ written.directory⟩)
        rw [← written.tables]
        simp [tables, keptStored, keptWorking]
    refine (rolledBack _).mono ?_ ?_
    · exact fun _ next kept => unchanged next kept.1
    · exact fun _ next kept => unchanged next kept

/-- A service that was created is published; a failure keeps the tables, and the files
unless only the save failed. -/
theorem ensures_createService (data : ServiceCreate) :
    Program.Ensures (createService environment data)
      (fun service next => ∃ prepared, Prepared environment data session.working prepared ∧
        Resynced prepared.1 service ∧ Published environment session service prepared.2 next)
      (fun _ next => visible next = visible session ∨
        ∃ prepared service, Prepared environment data session.working prepared ∧
          Resynced prepared.1 service ∧ (OnlyWritten environment session service prepared.2 next ∨
            Removed session service next)) session := by
  unfold createService
  rw [Program.ensures_bind]
  refine ((keeps_visible (fun database prepared =>
    Prepared environment data database prepared) (keeps_prepareCreatedService data)).ensures
      session).mono ?_ (fun _ _ same => .inl same)
  rintro ⟨created, templates⟩ next ⟨same, isPrepared⟩
  dsimp only
  rw [Program.ensures_bind]
  refine ((keeps_setupCreatedService created).ensures next).mono ?_
    (fun _ _ same' => .inl (same'.trans same))
  rintro assigned middle ⟨same', first⟩
  rw [Program.ensures_bind]
  refine ((keeps_visible (fun _ next => Resynced assigned next)
    (keeps_syncCloudflareRecord assigned false)).ensures middle).mono ?_
    (fun _ _ same'' => .inl (same''.trans (same'.trans same)))
  rintro service middle' ⟨same'', second⟩
  have whole := same''.trans (same'.trans same)
  have resynced := first.trans second
  rw [Program.ensures_bind, Program.ensures_tryCatch]
  refine (ensures_publishCreatedService whole service templates).mono ?_ ?_
  · intro _ last isPublished
    rw [Program.ensures_pure]
    exact ⟨(created, templates), isPrepared, resynced, isPublished⟩
  · intro failure last failed
    rw [Program.ensures_bind]
    refine (ensures_undoCreatedService environment templates failed).mono ?_ ?_
    · rintro _ final (unchanged | left)
      · rw [Program.ensures_throw]
        exact .inl unchanged
      · rw [Program.ensures_throw]
        exact .inr ⟨(created, templates), service, isPrepared, resynced, left⟩
    · rintro _ final (unchanged | left)
      · exact .inl unchanged
      · exact .inr ⟨(created, templates), service, isPrepared, resynced, left⟩

/-- A service that was found is edited, written and saved; any failure keeps the
tables, and the files unless only the save failed. -/
theorem ensures_updateService (serviceId : Uuid) (payload : ServiceUpdate) :
    Program.Ensures (updateService environment serviceId payload)
      (fun result next =>
        (Table.find Service.id session.working.services serviceId = none ∧ result = none ∧
          visible next = visible session) ∨
        ∃ service edited, Table.find Service.id session.working.services serviceId = some service ∧
          Edited environment service payload session.working edited ∧ result = some edited.1 ∧
            Published environment session edited.1 edited.2 next)
      (fun _ next => visible next = visible session ∨
        ∃ service edited, Table.find Service.id session.working.services serviceId = some service ∧
          Edited environment service payload session.working edited ∧
            OnlyWritten environment session edited.1 edited.2 next) session := by
  unfold updateService
  rw [Program.ensures_bind]
  refine ((keeps_visible (fun database found =>
    found = Table.find Service.id database.services serviceId) (keeps_query _ _)).ensures
      session).mono ?_ (fun _ _ same => .inl same)
  rintro found next ⟨same, isFound⟩
  cases found with
  | none =>
      dsimp only
      rw [Program.ensures_pure]
      exact .inl ⟨isFound.symm, rfl, same⟩
  | some service =>
      dsimp only
      rw [Program.ensures_bind]
      refine ((keeps_editService service payload).ensures next).mono ?_
        (fun _ _ same' => .inl (same'.trans same))
      rintro ⟨edited, templates⟩ middle ⟨same', isEdited⟩
      rw [same] at same' isEdited
      have publishes := ensures_publish environment same' edited templates
      simp only [Program.ensures_bind] at publishes ⊢
      refine publishes.mono ?_ ?_
      · intro _ last writes
        refine writes.mono ?_ ?_
        · intro _ final isPublished
          rw [Program.ensures_pure]
          exact .inr ⟨service, (edited, templates), isFound.symm, isEdited, rfl, isPublished⟩
        · rintro _ final (unchanged | written)
          · exact .inl unchanged
          · exact .inr ⟨service, (edited, templates), isFound.symm, isEdited, written⟩
      · rintro _ final (unchanged | written)
        · exact .inl unchanged
        · exact .inr ⟨service, (edited, templates), isFound.symm, isEdited, written⟩

/-- A service that was found loses its file and its row; a failure keeps the stored
data, and the files unless it came after the removal. -/
theorem ensures_deleteService (serviceId : Uuid) :
    Program.Ensures (deleteService environment serviceId)
      (fun _ next =>
        (Table.find Service.id session.working.services serviceId = none ∧
          visible next = visible session) ∨
        ∃ service, Table.find Service.id session.working.services serviceId = some service ∧
          Removed session service next ∧ next.working =
            { session.working with
              services := Table.delete Service.id session.working.services serviceId })
      (fun _ next => visible next = visible session ∨
        ∃ service, Table.find Service.id session.working.services serviceId = some service ∧
          Removed session service next) session := by
  unfold deleteService
  rw [Program.ensures_bind]
  refine ((keeps_visible (fun database found =>
    found = Table.find Service.id database.services serviceId) (keeps_query _ _)).ensures
      session).mono ?_ (fun _ _ same => .inl same)
  rintro found next ⟨same, isFound⟩
  cases found with
  | none =>
      dsimp only
      rw [Program.ensures_pure]
      exact .inl ⟨isFound.symm, same⟩
  | some service =>
      dsimp only
      rw [Program.ensures_bind]
      refine ((keeps_visible (fun _ next => SameButRemote service next)
        (keeps_teardownDeletedService service)).ensures next).mono ?_
        (fun _ _ same' => .inl (same'.trans same))
      rintro torn middle ⟨same', remote⟩
      rw [Program.ensures_bind]
      refine ((keeps_visible (fun _ _ => True)
        (keeps_deleteCloudflareRecord torn)).ensures middle).mono ?_
        (fun _ _ same'' => .inl (same''.trans (same'.trans same)))
      rintro _ middle' ⟨same'', -⟩
      have whole := same''.trans (same'.trans same)
      simp only [visible, Prod.mk.injEq] at whole
      obtain ⟨sameStored, sameWorking, sameFiles⟩ := whole
      have removal : published (middle'.outside.directory.deleteService torn) =
          published (session.outside.directory.deleteService service) := by
        rw [published_deleteService sameFiles torn, Directory.deleteService, remote.domain]
        rfl
      simp only [Program.ensures_bind, ensures_touchFile, deleteServiceRow, ensures_write]
      refine ⟨fun _ => ⟨fun _ => ?_, fun _ _ => .inr ?_⟩, fun _ _ => .inl ?_⟩
      · refine ((keeps_cleanupDeletedService torn).ensures _).mono ?_ ?_
        · rintro _ final ⟨kept, -⟩
          simp only [visible, Prod.mk.injEq] at kept
          obtain ⟨keptStored, keptWorking, keptFiles⟩ := kept
          refine .inr ⟨service, isFound.symm, ⟨keptStored.trans sameStored,
            keptFiles.trans removal⟩, ?_⟩
          rw [keptWorking, sameWorking]
        · rintro _ final kept
          simp only [visible, Prod.mk.injEq] at kept
          obtain ⟨keptStored, -, keptFiles⟩ := kept
          exact .inr ⟨service, isFound.symm, keptStored.trans sameStored, keptFiles.trans removal⟩
      · exact ⟨service, isFound.symm, sameStored, removal⟩
      · simp [visible, sameStored, sameWorking, sameFiles]

section Actions

/-- A record an action adds. -/
def ProxyEnvironment.record (environment : ProxyEnvironment) (action : String) (resourceId : Uuid)
    (detail : AuditDetail) : AuditLog :=
  { id := environment.auditLogId, action, resourceType := "service", resourceId, detail }

/-- A recorded change: what the use case leaves, with one more record. -/
def Database.recorded (database : Database) (log : AuditLog) : Database :=
  { database with auditLogs := database.auditLogs ++ [log] }

theorem ensures_recordAudit {before : ProxySession} {action : String} {resourceId : Uuid}
    {detail : AuditDetail} {normal : PUnit → ProxySession → Prop}
    {raised : PyException → ProxySession → Prop}
    (done : normal ⟨⟩ { before with
      working := before.working.recorded (environment.record action resourceId detail) })
    (failed : environment.fails .flushAuditLog ≠ none → ∀ failure, raised failure before) :
    Program.Ensures (recordAudit environment action "service" resourceId detail) normal raised
      before := by
  unfold recordAudit
  simp only [ensures_write]
  exact ⟨fun _ => done, fun failure isFailure => failed (by simp [isFailure]) failure⟩

/-- An update action edits the service it found, publishes it and records the change;
when it raises, the file of the service is written only if saving or recording failed. -/
theorem ensures_updateServiceAction (serviceId : Uuid) (payload : ServiceUpdate) :
    Program.Ensures (updateServiceAction environment serviceId payload)
      (fun result next => ∃ service edited,
        Table.find Service.id session.working.services serviceId = some service ∧
          Edited environment service payload session.working edited ∧ result = edited.1 ∧
            next.stored = session.stored ∧
            next.working = Database.recorded
              { session.working with
                services := Table.save Service.id session.working.services edited.1 }
              (environment.record "update" edited.1.id (updateDetail service edited.1)) ∧
            published next.outside.directory = published
              (session.outside.directory.writeService environment.settings edited.1 edited.2))
      (fun _ next => next.stored = session.stored ∧
        (published next.outside.directory = published session.outside.directory ∨
          (environment.fails .saveService ≠ none ∨ environment.fails .flushAuditLog ≠ none) ∧
            ∃ service edited,
              Table.find Service.id session.working.services serviceId = some service ∧
                Edited environment service payload session.working edited ∧
                  published next.outside.directory = published (session.outside.directory.writeService
                    environment.settings edited.1 edited.2))) session := by
  unfold updateServiceAction reporting
  simp only [Program.ensures_bind, Program.ensures_tryCatch, Program.ensures_throw,
    Program.ensures_pure, findServiceById, ensures_query]
  refine ⟨fun _ => ?_, fun _ _ => ⟨trivial, .inl trivial⟩⟩
  refine (ensures_updateService serviceId payload).mono ?_ ?_
  · rintro result next (⟨missing, rfl, same⟩ | ⟨service, edited, found, isEdited, rfl, isPublished⟩)
    · simp only [visible, Prod.mk.injEq] at same
      rw [Program.ensures_throw]
      exact ⟨same.1, .inl same.2.2⟩
    · rw [found]
      dsimp only
      rw [Program.ensures_bind]
      refine ensures_recordAudit ?_ ?_
      · rw [Program.ensures_pure]
        refine ⟨service, edited, rfl, isEdited, rfl, isPublished.stored, ?_, isPublished.directory⟩
        rw [isPublished.working]
      · exact fun failed _ => ⟨isPublished.stored, .inr ⟨.inr failed, service, edited, rfl, isEdited,
          isPublished.directory⟩⟩
  · rintro _ next (same | ⟨service, edited, found, isEdited, written⟩)
    · simp only [visible, Prod.mk.injEq] at same
      exact ⟨same.1, .inl same.2.2⟩
    · exact ⟨congrArg Prod.fst written.tables, .inr ⟨.inl written.failed, service, edited, found,
        isEdited, written.directory⟩⟩

theorem ensures_createServiceAction (data : ServiceCreate) :
    Program.Ensures (createServiceAction environment data)
      (fun service next => ∃ prepared, Prepared environment data session.working prepared ∧
        Resynced prepared.1 service ∧ next.stored = session.stored ∧
          next.working = Database.recorded
            { session.working with
              services := Table.save Service.id session.working.services service }
            (environment.record "create" service.id (.event "service_create")) ∧
          published next.outside.directory = published
            (session.outside.directory.writeService environment.settings service prepared.2))
      (fun _ next => next.stored = session.stored ∧
        (published next.outside.directory = published session.outside.directory ∨
          ∃ prepared service, Prepared environment data session.working prepared ∧
            Resynced prepared.1 service ∧
              (((environment.fails .saveService ≠ none ∨ environment.fails .flushAuditLog ≠ none) ∧
                published next.outside.directory = published (session.outside.directory.writeService
                  environment.settings service prepared.2)) ∨
                published next.outside.directory =
                  published (session.outside.directory.deleteService service)))) session := by
  unfold createServiceAction reporting
  simp only [Program.ensures_bind, Program.ensures_tryCatch, Program.ensures_throw,
    Program.ensures_pure]
  refine (ensures_createService data).mono ?_ ?_
  · rintro service next ⟨prepared, isPrepared, resynced, isPublished⟩
    refine ensures_recordAudit ?_ ?_
    · refine ⟨prepared, isPrepared, resynced, isPublished.stored, ?_, isPublished.directory⟩
      rw [isPublished.working]
    · exact fun failed _ => ⟨isPublished.stored, .inr ⟨prepared, service, isPrepared, resynced,
        .inl ⟨.inr failed, isPublished.directory⟩⟩⟩
  · rintro _ next (same | ⟨prepared, service, isPrepared, resynced, written | removed⟩)
    · simp only [visible, Prod.mk.injEq] at same
      exact ⟨same.1, .inl same.2.2⟩
    · exact ⟨congrArg Prod.fst written.tables, .inr ⟨prepared, service, isPrepared, resynced,
        .inl ⟨.inl written.failed, written.directory⟩⟩⟩
    · exact ⟨removed.stored, .inr ⟨prepared, service, isPrepared, resynced,
        .inr removed.directory⟩⟩

theorem ensures_deleteServiceAction (serviceId : Uuid) :
    Program.Ensures (deleteServiceAction environment serviceId)
      (fun _ next => ∃ service,
        Table.find Service.id session.working.services serviceId = some service ∧
          Removed session service next ∧ next.working = Database.recorded
            { session.working with
              services := Table.delete Service.id session.working.services serviceId }
            (environment.record "delete" serviceId (.event "service_delete")))
      (fun _ next => next.stored = session.stored ∧
        (published next.outside.directory = published session.outside.directory ∨
          ∃ service, Table.find Service.id session.working.services serviceId = some service ∧
            published next.outside.directory =
              published (session.outside.directory.deleteService service))) session := by
  unfold deleteServiceAction reporting
  simp only [Program.ensures_bind, findServiceById, ensures_query]
  refine ⟨fun _ => ?_, fun _ _ => ⟨trivial, .inl trivial⟩⟩
  cases found : Table.find Service.id session.working.services serviceId with
  | none =>
      dsimp only
      rw [Program.ensures_throw]
      exact ⟨rfl, .inl rfl⟩
  | some service =>
      dsimp only
      simp only [Program.ensures_bind, Program.ensures_tryCatch, Program.ensures_throw]
      refine (ensures_deleteService serviceId).mono ?_ ?_
      · rintro _ next (⟨missing, -⟩ | ⟨other, isFound, removed, left⟩)
        · rw [found] at missing
          cases missing
        · refine ensures_recordAudit ?_ ?_
          · refine ⟨other, found.symm.trans isFound, ⟨removed.stored, removed.directory⟩, ?_⟩
            rw [left]
          · exact fun _ _ => ⟨removed.stored, .inr ⟨other, found.symm.trans isFound,
              removed.directory⟩⟩
      · rintro _ next (same | ⟨other, isFound, removed⟩)
        · simp only [visible, Prod.mk.injEq] at same
          exact ⟨same.1, .inl same.2.2⟩
        · exact ⟨removed.stored, .inr ⟨other, found.symm.trans isFound, removed.directory⟩⟩

end Actions

end TraefikManager.Proxy
