import AppBundle.Run.Execute

/-!
# Executing step by step

What becomes of host and world when a bundle is executed, one equation for each stage. Only loading
and starting reach the host, and neither sees more of the world than the disk.
-/

namespace AppBundle

variable {σ : Type}

/-- One operation on host and world behind another. -/
theorem run_bind_inWorld {α β : Type} (x : StateT σ InWorld α) (f : α → StateT σ InWorld β) (s : σ)
    (w : World) :
    ((x >>= f).run s).run w =
      ((f ((x.run s).run w).1.1).run ((x.run s).run w).1.2).run ((x.run s).run w).2 := rfl

/-- An operation on the world leaves the host alone. -/
theorem run_liftM_inWorld {α : Type} (x : InWorld α) (s : σ) (w : World) :
    ((liftM x : StateT σ InWorld α).run s).run w = (((x.run w).1, s), (x.run w).2) := rfl

variable (a : Assembled) (h : Host σ) (c : Context)

/-- A bundle is loaded once its code and the files of the host are written. -/
theorem Assembled.run_load (folder : Path) (s : σ) (w : World) :
    ((a.load h c folder).run s).run w =
      match (World.onDisk
        (attempt (Disk.writeText (folder ++ [a.payloadName]) a.bundle.code))).run w with
      | (.error f, w) => ((⟨.error (.io f.message), []⟩, s), w)
      | (.ok (), w) =>
        match (World.onDisk (attempt (h.writeFiles folder))).run w with
        | (.error f, w) => ((⟨.error (.host (.io f.message)), []⟩, s), w)
        | (.ok (), w) =>
          let (answer, s) := (h.load w.disk (folder ++ [a.payloadName]) c).run s
          ((a.loaded folder answer, s), w) := by
  rw [load, run_bind_inWorld, run_liftM_inWorld]
  rcases (World.onDisk
    (attempt (Disk.writeText (folder ++ [a.payloadName]) a.bundle.code))).run w with ⟨f | ⟨⟩, w⟩
  · rfl
  · dsimp only
    rw [run_bind_inWorld, run_liftM_inWorld]
    rcases (World.onDisk (attempt (h.writeFiles folder))).run w with ⟨f | ⟨⟩, w⟩ <;> rfl

/-- An app that is loaded is started. -/
theorem Assembled.run_launch (folder : Path) (s : σ) (w : World) :
    ((a.launch h c folder).run s).run w =
      let ((l, s), w) := ((a.load h c folder).run s).run w
      match l.result with
      | .error _ => ((l, s), w)
      | .ok app =>
        let (r, s) := (app.start h).run s
        ((⟨r.result.map fun _ => r.app, l.logs ++ r.logs⟩, s), w) := by
  rw [launch, run_bind_inWorld]
  rcases ((a.load h c folder).run s).run w with ⟨⟨⟨f | app, logs⟩, s⟩, w⟩ <;> rfl

/-- An app that does not start leaves no folder. -/
theorem Assembled.run_execute (s : σ) (w : World) :
    ((a.execute h c).run s).run w =
      match a.runFolder.run w with
      | (.error f, w) => ((⟨.error (.io f.message), []⟩, s), w)
      | (.ok folder, w) =>
        let ((l, s), w) := ((a.launch h c folder).run s).run w
        match l.result with
        | .error _ => ((l, s), ((World.dropScratch folder).run w).2)
        | .ok _ => ((l, s), w) := by
  rw [execute, run_bind_inWorld, run_liftM_inWorld]
  rcases a.runFolder.run w with ⟨f | folder, w⟩
  · rfl
  · dsimp only
    rw [run_bind_inWorld]
    rcases ((a.launch h c folder).run s).run w with ⟨⟨⟨f | app, logs⟩, s⟩, w⟩ <;> rfl

end AppBundle
