import Conformance.Proofs.Workspace.Reset
import Conformance.Proofs.Workspace.Store
import Conformance.Proofs.Workspace.Within

/-! # The accounts of a workspace

The store and the counts of a workspace are functions of the requests for outlines since the workspace
was made or last reset, whichever commands made them and however these ended.

* `Request`: a request for the outline of a unit, by what came of it.
* `Command.requests`, `Workspace.requestsThrough`: the requests of a command, and those since the last
  reset after a history.
* `Workspace.Accounts`: the invariant; `Accounts.outline` is the step, `Accounts.run` a command.
* `Workspace.accounts_of_history`: the store holds the newest outlines and the counts are exact.
-/

namespace Conformance
set_option autoImplicit false

/-! ## Requests -/

/-- A request for the outline of a unit: the store had it, it was made (be it only that there is
none), or there was no answer. -/
inductive Request where
  | found (key : OutlineKey)
  | made (key : OutlineKey) (o : Option Outline)
  | refused (key : OutlineKey)

namespace Request

/-- What a request adds to the store. -/
def addition? : Request → Option (OutlineKey × Option Outline)
  | made key o => some (key, o)
  | _ => none

def isRefused : Request → Bool
  | refused _ => true
  | _ => false

/-- What requests added to the store, in their order. -/
def additions (requests : List Request) : List (OutlineKey × Option Outline) :=
  requests.filterMap addition?

theorem additions_concat (requests : List Request) (q : Request) :
    additions (requests ++ [q]) = additions requests ++ q.addition?.toList := by
  rw [additions, List.filterMap_append]
  cases q <;> rfl

end Request

namespace Operation

/-- What comes of a request. -/
def request (files : FileTree) (w : Workspace) (u : Implementation) : Request :=
  match w.outlines.get? (.ofUnit u), (outline u files w).answer with
  | some _, _ => .found (.ofUnit u)
  | none, .ok o => .made (.ofUnit u) o
  | none, .error _ => .refused (.ofUnit u)

/-- Requests one after the other, up to the first without an answer. -/
def requests (files : FileTree) : Workspace → List Implementation → List Request
  | _, [] => []
  | w, u :: rest =>
    request files w u ::
      match outline u files w with
      | ⟨.ok _, w, _⟩ => requests files w rest
      | ⟨.error _, _, _⟩ => []

end Operation

namespace Command

/-- The requests that a command makes. -/
def requests (files : FileTree) (w : Workspace) : Command → List Request
  | outline u => [Operation.request files w u]
  | outlineAll units => Operation.requests files w units
  | verifyOne u none => [Operation.request files w u]
  | verifyOne u (some r) => [Operation.request files (Operation.configure r files w).workspace u]
  | verifyAll units r =>
    match Operation.settings files (Operation.configure r files w).workspace with
    | ⟨.ok _, w, _⟩ => Operation.requests files w units
    | ⟨.error _, _, _⟩ => []
  | resolve _ _ _ | settings | root | configure _ | reset => []

/-- The command forgets everything before it does anything else. -/
def startsAfresh (files : FileTree) (w : Workspace) : Command → Bool
  | reset => true
  | configure r | verifyOne _ (some r) | verifyAll _ r =>
    w.root.any fun old => files.resolved r != files.resolved old
  | _ => false

/-- The requests since the last reset, after a command. -/
def record (files : FileTree) (w : Workspace) (before : List Request) (c : Command) : List Request :=
  (if c.startsAfresh files w then [] else before) ++ c.requests files w

end Command

namespace Workspace

/-- The requests since the last reset, after some turns. -/
def requestsThrough (w : Workspace) (before : List Request) : List Turn → List Request
  | [] => before
  | t :: rest =>
    (t.command.run t.files w).requestsThrough (t.command.record t.files w before) rest

/-! ## One request -/

section

variable {files : FileTree} {w : Workspace} {u : Implementation}

/-- The workspace with one miss more on its counts. -/
def missed (w : Workspace) : Workspace :=
  { w with stats := { w.stats with misses := w.stats.misses + 1 } }

theorem outline_of_hit {o : Option Outline} (h : w.outlines.get? (.ofUnit u) = some o) :
    Operation.outline u files w =
      ⟨.ok o, { w with stats := { w.stats with hits := w.stats.hits + 1 } }, []⟩ := by
  unfold Operation.outline
  rw [Operation.bind_apply]
  simp only [Operation.workspace, h]
  rfl

/-- A miss is counted before anything can fail. -/
theorem outline_of_miss (files : FileTree) (h : w.outlines.get? (.ofUnit u) = none) :
    ((Operation.outline u files w).answer, (Operation.outline u files w).workspace) =
      match Operation.outlineAnew u files w.missed with
      | ⟨.ok o, w', _⟩ => (.ok o, (Operation.keep u o files w').workspace)
      | ⟨.error e, w', _⟩ => (.error e, w') := by
  have hrun : Operation.outline u files w =
      (Operation.count (fun s => { s with misses := s.misses + 1 }) >>= fun _ =>
        Operation.outlineAnew u >>= fun o => Operation.keep u o >>= fun _ => pure o) files w := by
    unfold Operation.outline
    rw [Operation.bind_apply]
    simp only [Operation.workspace, h]
    rfl
  have hcount : Operation.count (fun s => { s with misses := s.misses + 1 }) files w =
      ⟨.ok (), w.missed, []⟩ := rfl
  rw [hrun, (Operation.bind_of_ok hcount).1, (Operation.bind_of_ok hcount).2]
  rcases hanew : Operation.outlineAnew u files w.missed with ⟨e | o, w', events⟩
  · rw [Operation.bind_of_error hanew]
  · rw [(Operation.bind_of_ok hanew).1, (Operation.bind_of_ok hanew).2]
    rfl

end

/-- What a request leaves of store and counts: it is a hit, a miss without an answer, or a miss with
an answer, which is kept. -/
inductive Books (w : Workspace) (u : Implementation) : Request → Outcome (Option Outline) → Prop
  | found {o : Outcome (Option Outline)} (a : Option Outline) (answer_eq : o.answer = .ok a)
      (outlines_eq : o.workspace.outlines = w.outlines)
      (stats_eq : o.workspace.stats = { w.stats with hits := w.stats.hits + 1 }) :
      Books w u (.found (.ofUnit u)) o
  | refused {o : Outcome (Option Outline)} (e : WorkspaceError) (answer_eq : o.answer = .error e)
      (outlines_eq : o.workspace.outlines = w.outlines)
      (stats_eq : o.workspace.stats = { w.stats with misses := w.stats.misses + 1 }) :
      Books w u (.refused (.ofUnit u)) o
  | made {o : Outcome (Option Outline)} (a : Option Outline) (answer_eq : o.answer = .ok a)
      (absent : w.outlines.get? (.ofUnit u) = none)
      (outlines_eq : o.workspace.outlines = w.outlines.add (.ofUnit u) a)
      (stats_eq : o.workspace.stats =
        { w.stats with
          misses := w.stats.misses + 1
          degraded := w.stats.degraded + (if a.isNone then 1 else 0)
          evictions := w.stats.evictions + w.outlines.evictions }) :
      Books w u (.made (.ofUnit u) a) o

theorem books_outline (files : FileTree) (w : Workspace) (u : Implementation) :
    Books w u (Operation.request files w u) (Operation.outline u files w) := by
  unfold Operation.request
  cases hget : w.outlines.get? (.ofUnit u) with
  | some a =>
    rw [outline_of_hit hget]
    exact .found a rfl rfl rfl
  | none =>
    have hmiss := outline_of_miss files hget
    -- Making the outline leaves store and counts as the miss left them.
    have hbooks := Operation.within_outlineAnew u files w.missed
    rcases hanew : Operation.outlineAnew u files w.missed with ⟨e | a, w', events⟩
    all_goals
      rw [hanew] at hmiss hbooks
      obtain ⟨hanswer, hworkspace⟩ := Prod.mk.inj hmiss
      rw [hanswer]
    · refine .refused e hanswer ?_ ?_
      · rw [hworkspace]
        exact hbooks.outlines_eq
      · rw [hworkspace]
        exact hbooks.stats_eq
    · have houtlines : w'.outlines = w.outlines := hbooks.outlines_eq
      have hstats : w'.stats = w.missed.stats := hbooks.stats_eq
      refine .made a hanswer hget ?_ ?_
      · rw [hworkspace, ← houtlines]
        rfl
      · rw [hworkspace]
        dsimp only [Operation.keep, Operation.change]
        rw [hstats, houtlines]
        rfl

theorem Books.outlines_of_error {w : Workspace} {u : Implementation} {q : Request}
    {o : Outcome (Option Outline)} {e : WorkspaceError} (h : w.Books u q o)
    (he : o.answer = .error e) : o.workspace.outlines = w.outlines := by
  cases h with
  | found a hanswer houtlines => exact houtlines
  | refused e' hanswer houtlines => exact houtlines
  | made a hanswer =>
    rw [he] at hanswer
    cases hanswer

/-! ## The invariant -/

/-- The store holds the newest of the outlines that were made since the last reset, and the counts are
those of the requests since then. -/
structure Accounts (w : Workspace) (requests : List Request) : Prop where
  entries_eq : w.outlines.entries =
    (Request.additions requests).rtake (Store.bound w.outlines.capacity)
  nodup_keys : w.outlines.keys.Nodup
  evictions_eq : w.outlines.entries.length + w.stats.evictions = (Request.additions requests).length
  requests_eq : w.stats.hits + w.stats.misses = requests.length
  misses_eq : w.stats.misses =
    (Request.additions requests).length + requests.countP Request.isRefused
  degraded_eq : w.stats.degraded = (Request.additions requests).countP fun e => e.2.isNone

section

variable {files : FileTree} {w w' : Workspace} {requests : List Request}

theorem accounts_new (root : Option Path) (pinned : Option Settings) (capacity : Int) :
    (new root pinned capacity).Accounts [] := by
  refine ⟨?_, List.nodup_nil, rfl, rfl, rfl, rfl⟩
  rw [Request.additions, List.filterMap_nil, List.rtake_nil]
  rfl

namespace Accounts

theorem of_sameBooks (h : w.Accounts requests) (hw : w.SameBooks w') : w'.Accounts requests := by
  constructor
  · rw [hw.outlines_eq]
    exact h.entries_eq
  · rw [hw.outlines_eq]
    exact h.nodup_keys
  · rw [hw.outlines_eq, hw.stats_eq]
    exact h.evictions_eq
  · rw [hw.stats_eq]
    exact h.requests_eq
  · rw [hw.stats_eq]
    exact h.misses_eq
  · rw [hw.stats_eq]
    exact h.degraded_eq

/-- A request that adds nothing is counted. -/
theorem counted (h : w.Accounts requests) {q : Request} (hq : q.addition? = none)
    (houtlines : w'.outlines = w.outlines)
    (hevictions : w'.stats.evictions = w.stats.evictions)
    (hdegraded : w'.stats.degraded = w.stats.degraded)
    (hrequests : w'.stats.hits + w'.stats.misses = w.stats.hits + w.stats.misses + 1)
    (hmisses : w'.stats.misses = w.stats.misses + [q].countP Request.isRefused) :
    w'.Accounts (requests ++ [q]) := by
  have hadditions : Request.additions (requests ++ [q]) = Request.additions requests := by
    rw [Request.additions_concat, hq, Option.toList_none, List.append_nil]
  constructor
  · rw [houtlines, hadditions]
    exact h.entries_eq
  · rw [houtlines]
    exact h.nodup_keys
  · rw [houtlines, hevictions, hadditions]
    exact h.evictions_eq
  · rw [hrequests, h.requests_eq, List.length_append, List.length_singleton]
  · rw [hmisses, h.misses_eq, hadditions, List.countP_append, Nat.add_assoc]
  · rw [hdegraded, hadditions]
    exact h.degraded_eq

/-- A request that adds an outline is counted, and so is what the outline drives out. -/
theorem added (h : w.Accounts requests) {key : OutlineKey} {o : Option Outline}
    (habsent : w.outlines.get? key = none) (houtlines : w'.outlines = w.outlines.add key o)
    (hstats : w'.stats = { w.stats with
      misses := w.stats.misses + 1
      degraded := w.stats.degraded + (if o.isNone then 1 else 0)
      evictions := w.stats.evictions + w.outlines.evictions }) :
    w'.Accounts (requests ++ [.made key o]) := by
  have hadditions : Request.additions (requests ++ [.made key o]) =
      Request.additions requests ++ [(key, o)] := Request.additions_concat requests _
  have hrequests := h.requests_eq
  have hmisses := h.misses_eq
  have hevictions := h.evictions_eq
  have hstored : (w.outlines.add key o).entries.length + w.outlines.evictions =
      w.outlines.entries.length + 1 := Store.evictions_add
  constructor
  · rw [houtlines, hadditions, Store.capacity_add]
    exact Store.entries_add_of_newest h.entries_eq
  · rw [houtlines]
    exact Store.nodup_keys_add h.nodup_keys habsent
  · rw [houtlines, hstats, hadditions, List.length_append, List.length_singleton]
    dsimp only
    omega
  · rw [hstats, List.length_append, List.length_singleton]
    dsimp only
    omega
  · have hrefused : (requests ++ [Request.made key o]).countP Request.isRefused =
        requests.countP Request.isRefused := List.countP_append
    rw [hstats, hadditions, hrefused, List.length_append, List.length_singleton]
    dsimp only
    omega
  · rw [hstats, hadditions, List.countP_append, ← h.degraded_eq, List.countP_singleton]

/-- One request, whatever comes of it. -/
theorem books (h : w.Accounts requests) {u : Implementation} {q : Request}
    {o : Outcome (Option Outline)} (hbooks : w.Books u q o) :
    o.workspace.Accounts (requests ++ [q]) := by
  cases hbooks with
  | found a _ houtlines hstats =>
    apply h.counted rfl houtlines
    all_goals rw [hstats]
    · rw [Nat.add_right_comm]
    · rfl
  | refused e _ houtlines hstats =>
    apply h.counted rfl houtlines
    all_goals rw [hstats]
    · rw [Nat.add_assoc]
    · rfl
  | made a _ habsent houtlines hstats => exact h.added habsent houtlines hstats

theorem outline (h : w.Accounts requests) (files : FileTree) (u : Implementation) :
    (Operation.outline u files w).workspace.Accounts (requests ++ [Operation.request files w u]) :=
  h.books (books_outline files w u)

/-- A row of requests breaks off at the first without an answer. -/
theorem outlineEach (h : w.Accounts requests) (units : List Implementation) :
    (Operation.outlineEach units files w).workspace.Accounts
      (requests ++ Operation.requests files w units) := by
  induction units generalizing w requests with
  | nil =>
    rw [Operation.requests, List.append_nil]
    exact h
  | cons u rest ih =>
    have hu := h.outline files u
    unfold Operation.outlineEach Operation.requests
    rw [List.append_cons]
    rcases hrun : Operation.outline u files w with ⟨e | o, w', events⟩
    all_goals rw [hrun] at hu
    · rw [Operation.bind_of_error hrun, List.append_nil]
      exact hu
    · rw [(Operation.bind_of_ok hrun).2, Operation.workspace_bind_pure]
      exact ih hu

theorem outlineAll (h : w.Accounts requests) (units : List Implementation) :
    (Operation.outlineAll units files w).workspace.Accounts
      (requests ++ Operation.requests files w units) := by
  unfold Operation.outlineAll
  rw [Operation.workspace_bind_pure]
  exact h.outlineEach units

/-! ## One command -/

theorem verifyOne (h : w.Accounts requests) (u : Implementation) :
    (Operation.verifyOne u none files w).workspace.Accounts
      (requests ++ [Operation.request files w u]) := by
  rw [Operation.verifyOne_none]
  refine (h.outline files u).of_sameBooks (Operation.Within.after (fun o => ?_) files w)
  exact Operation.within_settings.bind fun s => Operation.within_verify s u o

theorem verifyBatch (h : w.Accounts requests) (units : List Implementation) :
    (Operation.verifyBatch units files w).workspace.Accounts
      (requests ++ match Operation.settings files w with
        | ⟨.ok _, w', _⟩ => Operation.requests files w' units
        | ⟨.error _, _, _⟩ => []) := by
  have hsettings := h.of_sameBooks (Operation.within_settings files w)
  unfold Operation.verifyBatch
  rcases hrun : Operation.settings files w with ⟨e | s, w', events⟩
  all_goals rw [hrun] at hsettings
  · rw [Operation.bind_of_error hrun, List.append_nil]
    exact hsettings
  · rw [(Operation.bind_of_ok hrun).2]
    refine (hsettings.outlineAll units).of_sameBooks (Operation.Within.after (fun l => ?_) files w')
    exact (Operation.within_verifyEach s l units).bind fun _ =>
      (Operation.Within.report _).bind fun _ => .pure _

/-- A move to another directory starts new accounts, a move to the same one keeps the old ones. -/
theorem movedTo (h : w.Accounts requests) (files : FileTree) (root : Path) :
    (w.movedTo files root).Accounts
      (if w.root.any fun old => files.resolved root != files.resolved old then [] else requests) := by
  unfold Workspace.movedTo
  cases w.root with
  | none => exact h.of_sameBooks ⟨rfl, rfl, rfl⟩
  | some old =>
    by_cases hsame : files.resolved root = files.resolved old
    · simpa [hsame] using h
    · simpa [hsame] using accounts_new (some root) w.pinned w.outlines.capacity

theorem run (h : w.Accounts requests) (c : Command) :
    (c.run files w).Accounts (c.record files w requests) := by
  have hmoved (root : Path) : (Operation.configure root files w).workspace = w.movedTo files root := by
    obtain ⟨events, hconfigure⟩ := Operation.configure_moves root files w
    rw [hconfigure]
  cases c with
  | outline u => exact h.outline files u
  | outlineAll units => exact h.outlineAll units
  | verifyOne u root =>
    cases root with
    | none => exact h.verifyOne u
    | some root =>
      have hstart := h.movedTo files root
      rw [Command.run, Operation.verifyOne_some, (Operation.configure_bind root _ files w).2]
      rw [← hmoved] at hstart ⊢
      exact hstart.verifyOne u
  | verifyAll units root =>
    have hstart := h.movedTo files root
    rw [Command.run, Operation.verifyAll_eq, (Operation.configure_bind root _ files w).2]
    rw [← hmoved] at hstart ⊢
    exact hstart.verifyBatch units
  | resolve specifier base language =>
    unfold Command.record Command.requests Command.startsAfresh
    rw [List.append_nil]
    exact h.of_sameBooks (Operation.within_import? _ _ _ files w)
  | settings =>
    unfold Command.record Command.requests Command.startsAfresh
    rw [List.append_nil]
    exact h.of_sameBooks (Operation.within_settings files w)
  | root =>
    unfold Command.record Command.requests Command.startsAfresh
    rw [List.append_nil]
    exact h.of_sameBooks (Operation.within_root files w)
  | configure root =>
    unfold Command.record Command.requests Command.startsAfresh
    rw [Command.run, hmoved, List.append_nil]
    exact h.movedTo files root
  | reset => exact accounts_new w.root w.pinned w.outlines.capacity

/-- Every history, by induction on its turns. -/
theorem through (h : w.Accounts requests) (history : List Turn) :
    (w.through history).Accounts (w.requestsThrough requests history) := by
  induction history generalizing w requests with
  | nil => exact h
  | cons t rest ih => exact ih (h.run t.command)

end Accounts

end

/-- **Exact accounts.** Whatever a workspace went through, its store holds the newest outlines of all
that were made since the last reset, under different keys, and its counts are those of the requests
since then. A request without an answer leaves the store alone. -/
theorem accounts_of_history (start : Option Path) (pinned : Option Settings) (capacity : Int)
    (history : List Turn) :
    let w := (new start pinned capacity).through history
    let requests := (new start pinned capacity).requestsThrough [] history
    let added := requests.filterMap Request.addition?
    let cached := w.outlines.entries
    cached = added.rtake (min added.length (max 1 capacity.toNat)) ∧
      (cached.map Prod.fst).Nodup ∧
      cached.length + w.stats.evictions = added.length ∧
      w.stats.hits + w.stats.misses = requests.length ∧
      w.stats.misses = added.length + requests.countP Request.isRefused ∧
      w.stats.degraded = added.countP (fun e => e.2.isNone) ∧
      ∀ files u e, (Operation.outline u files w).answer = .error e →
        (Operation.outline u files w).workspace.outlines = w.outlines := by
  intro w requests added cached
  have h : w.Accounts requests := (accounts_new start pinned capacity).through history
  have hcapacity : w.outlines.capacity = capacity := (sameTerms_through _ history).capacity_eq
  refine ⟨?_, h.nodup_keys, h.evictions_eq, h.requests_eq, h.misses_eq, h.degraded_eq, ?_⟩
  · have hentries := h.entries_eq
    rw [hcapacity] at hentries
    rw [Store.rtake_min_length]
    exact hentries
  · exact fun files u e he => (books_outline files w u).outlines_of_error he

/-- A store with one place. Of three requests in a row one is a hit and one drives out the outline made
before; the last one needs settings, which a directory stands in the place of. -/
theorem accounts_of_single_place :
    let plain : FileTree := ⟨[], ⟨.root, []⟩⟩
    let broken : FileTree := ⟨[([".glass.yml"], .directory)], ⟨.root, []⟩⟩
    let u : Implementation := ⟨"a.b", "", .empty, "", none, .rust⟩
    let v : Implementation := ⟨"a.c", "", .empty, "", none, .rust⟩
    let p : Implementation := ⟨"a.d", "", .empty, "", none, .python⟩
    let history : List Turn :=
      [⟨plain, .outline v⟩, ⟨plain, .reset⟩, ⟨plain, .outlineAll [u, u, v]⟩, ⟨broken, .outline p⟩]
    let w := (new none none 0).through history
    w.stats = ⟨1, 3, 1, 2⟩ ∧ w.outlines.keys = [.ofUnit v] ∧
      (Operation.outline p broken w).answer.isOk = false ∧
      (Operation.outline p broken w).workspace.outlines = w.outlines := by
  intro plain broken u v p history w
  have hp : (Operation.outline p broken w).answer.isOk = false := by decide +kernel
  refine ⟨by decide +kernel, by decide +kernel, hp, ?_⟩
  obtain ⟨-, -, -, -, -, -, hrefused⟩ := accounts_of_history none none 0 history
  clear_value history
  cases he : (Operation.outline p broken w).answer with
  | ok o =>
    rw [he] at hp
    cases hp
  | error e => exact hrefused broken p e he

end Workspace

end Conformance
