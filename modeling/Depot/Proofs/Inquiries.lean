import Depot.Proofs.NormalizationOrder

/-!
Sessions that are asked for metadata, directly or by operations. In a world that does not change it
can be told from what was asked which values the caches have.
-/

namespace Depot

open Http Normalization Repository Run

/-- What a session can be asked: for metadata of one repository or of several merged, or to carry
out an operation. -/
inductive Inquiry
  | resolve (question : Question)
  | resolveMerged (rs : List Repository) (ga : GroupArtifact) (versionDirectory : Option String)
  | carryOut (operation : Operation)

namespace Inquiry

def after (c : Configuration) : Inquiry → Session → Session
  | resolve question, s => (question.resolve c.settings s).2
  | resolveMerged rs ga versionDirectory, s =>
      (Resolution.resolveMerged c.settings (rs.map access) ga versionDirectory s).2
  | carryOut operation, s => operation.after c s

/-- The repositories that are normalized. -/
def normalized (c : Configuration) : Inquiry → List Repository
  | carryOut operation => operation.normalized c
  | _ => []

/-- The metadata that is asked for. -/
def asked (c : Configuration) (s : Session) : Inquiry → List Question
  | resolve question => [question]
  | resolveMerged rs ga versionDirectory => rs.map (Question.mk · ga versionDirectory)
  | carryOut operation => operation.asked c s

end Inquiry

namespace Session

/-- The session after it was asked all this. -/
def inquire (c : Configuration) (s : Session) (inquiries : List Inquiry) : Session :=
  inquiries.foldl (fun s inquiry => inquiry.after c s) s

/-- The metadata that is asked for, the first question first. -/
def asked (c : Configuration) : Session → List Inquiry → List Question
  | _, [] => []
  | s, inquiry :: inquiries => inquiry.asked c s ++ (inquiry.after c s).asked c inquiries

end Session

variable {w : World} {c : Configuration} {s : Session}

theorem Inquiry.goesOn (hw : w.network.IsSteady) (hs : s.world = w)
    (hdistinct : (s.normalized.map Prod.fst).Nodup) (inquiry : Inquiry) :
    w.GoesOn c (inquiry.normalized c) (inquiry.asked c s) s (inquiry.after c s) := by
  cases inquiry with
  | resolve question => exact (question.resolve_goesOn hw hs).2
  | resolveMerged rs ga versionDirectory =>
      rw [after, Resolution.resolveMerged_apply]
      exact Question.mapM_resolve_goesOn hw hs _
  | carryOut operation => exact operation.goesOn hw hs hdistinct

theorem Inquiry.after_keeps (inv : Session → Prop)
    (hresolve : ∀ (q : Question) (s : Session), inv s → inv (q.resolve c.settings s).2)
    (hoperation : ∀ (operation : Operation) (s : Session), inv s → inv (operation.after c s))
    (inquiry : Inquiry) (hs : inv s) : inv (inquiry.after c s) := by
  have hkeeps (q : Question) : Keeps inv (q.resolve c.settings) fun _ => True :=
    fun s hs => ⟨hresolve q s hs, trivial⟩
  cases inquiry with
  | resolve question => exact hresolve question s hs
  | resolveMerged rs ga versionDirectory =>
      rw [after, Resolution.resolveMerged_apply]
      exact (Keeps.mapM (fun q _ => hkeeps q) s hs).1
  | carryOut operation => exact hoperation operation s hs

theorem Inquiry.after_grown {before : Cache Key Bool} (inquiry : Inquiry)
    (hs : Cache.Grown before s.normalized) :
    Cache.Grown before (inquiry.after c s).normalized := by
  have hspares := Scope.reading.spares_normalized (Cache.Grown before)
  exact after_keeps (fun s => Cache.Grown before s.normalized)
    (fun q s hs => (q.resolve_keeps hspares s hs).1)
    (fun operation _ hs => operation.after_grown hs) inquiry hs

theorem Session.inquire_goesOn (hw : w.network.IsSteady) (hs : s.world = w)
    (hdistinct : (s.normalized.map Prod.fst).Nodup) (inquiries : List Inquiry) :
    w.GoesOn c (inquiries.flatMap (Inquiry.normalized c)) (s.asked c inquiries) s
      (s.inquire c inquiries) := by
  -- Normalizing together relies on no key having a verdict twice, so that is kept on the way.
  induction inquiries generalizing s with
  | nil => exact .refl hs
  | cons inquiry inquiries ih =>
      have hfirst := inquiry.goesOn (c := c) hw hs hdistinct
      have hgrown := inquiry.after_grown (c := c) ⟨hdistinct, List.prefix_rfl⟩
      exact hfirst.trans (ih hfirst.world hgrown.distinct)

end Depot
