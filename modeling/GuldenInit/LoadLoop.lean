import GuldenInit.Stores

namespace gulden.load_loop

open stores

/-- How an external step the loop calls ends: it returns (with the result it reports,
    where it reports one), or it throws a `std::exception`. -/
inductive Reply
  | ret (b : Bool)
  | raise
  deriving DecidableEq, Repr

/-- What the loop's collaborators answer, each in the order the loop asks. -/
structure Env where
  /-- whether the `n`-th store constructor (`CBlockTreeDB`, `CCoinsViewDB`, `CWitViewDB`)
      throws -/
  ctorThrows : Nat → Bool
  /-- the `n`-th call of any other external step -/
  reply : Nat → Reply
  /-- the `n`-th read of external state: `nPreviousVersion < 1`, the genesis check, the
      stored `-txindex` and prune flags, the tip -/
  read : Nat → Bool
  /-- the `n`-th answer to `ThreadSafeQuestion`: `none` when it is not answered -/
  answer : Nat → Option Bool

/-- The settings the loop reads and never writes. -/
structure LoadConfig where
  fPruneMode : Bool
  /-- `IsArgSet("-resyncforblockindexupgrade")` -/
  resyncForBlockIndexUpgrade : Bool

/-- The state the `try` block works on: the store pointers, `fReindex`, the
    function-static `upgradeOnceOnly`, `strLoadError`, and how far each answer stream of
    the `Env` has been read. -/
structure PassState where
  stores : Stores
  fReindex : Bool
  upgradeOnceOnly : Bool
  strLoadError : String
  nCtor : Nat
  nCall : Nat
  nRead : Nat

/-- How the `try` block is left early. -/
inductive Exit
  /-- `break` out of `do { } while (false)` with `strLoadError` set -/
  | brk
  /-- a `std::exception`, caught by the `catch` -/
  | raise
  /-- `return InitError(msg)` out of AppInitMain -/
  | initError (msg : String)
  deriving DecidableEq, Repr

/-- Where the `try` block ends when it is not left early. -/
inductive Reached
  /-- fell through to `fLoaded = true` -/
  | fLoaded
  /-- `goto loadblockindex` -/
  | loadblockindex
  deriving DecidableEq, Repr

/-- The `try` block's computations: the state survives an early exit. -/
abbrev LoadM := ExceptT Exit (StateM PassState)

/-- Run a computation of the `try` block from a state. -/
def LoadM.run' {α : Type} (x : LoadM α) (s : PassState) : Except Exit α × PassState :=
  x.run.run s

namespace LoadM

variable {α β : Type}

@[simp] theorem run'_pure (a : α) (s : PassState) : (pure a : LoadM α).run' s = (.ok a, s) := rfl

@[simp] theorem run'_throw (e : Exit) (s : PassState) :
    (throw e : LoadM α).run' s = (.error e, s) := rfl

@[simp] theorem run'_get (s : PassState) : (get : LoadM PassState).run' s = (.ok s, s) := rfl

@[simp] theorem run'_set (s' s : PassState) : (set s' : LoadM PUnit).run' s = (.ok ⟨⟩, s') := rfl

@[simp] theorem run'_modify (f : PassState → PassState) (s : PassState) :
    (modify f : LoadM PUnit).run' s = (.ok ⟨⟩, f s) := rfl

theorem run'_bind (x : LoadM α) (f : α → LoadM β) (s : PassState) :
    (x >>= f).run' s = match x.run' s with
      | (.ok a, s') => (f a).run' s'
      | (.error e, s') => (.error e, s') := by
  simp only [run', bind, ExceptT.bind, ExceptT.mk, ExceptT.bindCont, ExceptT.run, StateT.bind,
    StateT.run]
  rcases x s with ⟨_ | _, _⟩ <;> rfl

/-- A bind that ends normally went through `x` normally. -/
theorem run'_bind_ok {x : LoadM α} {f : α → LoadM β} {s s' : PassState} {b : β}
    (h : (x >>= f).run' s = (.ok b, s')) :
    ∃ a s₁, x.run' s = (.ok a, s₁) ∧ (f a).run' s₁ = (.ok b, s') := by
  rw [run'_bind] at h
  rcases hx : x.run' s with ⟨_ | a, s₁⟩ <;> rw [hx] at h
  · cases h
  · exact ⟨a, s₁, rfl, h⟩

end LoadM

section Primitives

variable (env : Env)

/-- A call of an external step other than a store constructor. -/
def call : LoadM Bool := do
  let s ← get
  set { s with nCall := s.nCall + 1 }
  match env.reply s.nCall with
  | .ret b => pure b
  | .raise => throw .raise

/-- A call whose result the loop ignores (`UnloadBlockIndex()`, `blockStore.Delete()`, …). -/
def callIgnore : LoadM Unit := do
  let _ ← call env
  pure ()

/-- A read of external state. -/
def readState : LoadM Bool := do
  let s ← get
  set { s with nRead := s.nRead + 1 }
  pure (env.read s.nRead)

/-- `p = new CBlockTreeDB(...)`, `new CCoinsViewDB(...)` or `new CWitViewDB(...)`: the
    constructor may throw, and then `p` keeps its value. -/
def construct (sl : Slot) : LoadM Unit := do
  let s ← get
  set { s with nCtor := s.nCtor + 1 }
  if env.ctorThrows s.nCtor then throw .raise
  modify fun s => { s with stores := s.stores.alloc sl }

/-- A statement on the store pointers. -/
def onStores (f : Stores → Stores) : LoadM Unit :=
  modify fun s => { s with stores := f s.stores }

/-- `strLoadError = msg; break;` -/
def fail {α : Type} (msg : String) : LoadM α := do
  modify fun s => { s with strLoadError := msg }
  throw .brk

/-- `if (!ok) { strLoadError = msg; break; }` -/
def require (ok : Bool) (msg : String) : LoadM Unit :=
  if ok then pure () else fail msg

/-- `if (c) return InitError(msg);` -/
def initErrorIf (c : Bool) (msg : String) : LoadM Unit :=
  if c then throw (.initError msg) else pure ()

end Primitives

section Pass

variable (cfg : LoadConfig) (env : Env)

/-- From `loadblockindex:` to `SetSiblingView`: the previous stores are deleted, their
    pointers keeping their values, and new ones built; each database constructor may
    throw. -/
def openStores : LoadM Unit := do
  onStores (·.delete .pcoinsTip)
  onStores (·.delete .pcoinsdbview)
  onStores (·.delete .pcoinscatcher)
  onStores (·.delete .pblocktree)
  construct env .pblocktree
  construct env .pcoinsdbview
  onStores (·.alloc .pcoinscatcher)
  onStores (·.alloc .pcoinsTip)
  onStores (·.delete .ppow2witdbview)
  onStores (·.delete .ppow2witcatcher)
  onStores (·.reset .ppow2witTip)
  construct env .ppow2witdbview
  onStores (·.alloc .ppow2witcatcher)
  onStores (·.alloc .ppow2witTip)
  onStores Stores.setSiblingView

/-- `WriteReindexing(true)` and, in prune mode, `CleanupBlockRevFiles()` under
    `-reindex`; otherwise the chainstate upgrade. -/
def prepare : LoadM Unit := do
  if (← get).fReindex then
    callIgnore env
    if cfg.fPruneMode then callIgnore env
  else
    unless (← call env) do fail "Error upgrading chainstate database"

/-- The shape of both version 2.0 upgrade blocks: when `upgradeOnceOnly` is set and
    `cond` holds, `upgradeOnceOnly = false;`, the block's `body`, and
    `goto loadblockindex` (`true`). -/
def upgradeOnce (cond : LoadM Bool) (body : LoadM Unit) : LoadM Bool := do
  if (← get).upgradeOnceOnly then
    if (← cond) then
      modify fun s => { s with upgradeOnceOnly := false }
      body
      pure true
    else pure false
  else pure false

/-- `UnloadBlockIndex(); fReindex = true; blockStore.Delete();` -/
def eraseBlockIndex : LoadM Unit := do
  callIgnore env
  modify fun s => { s with fReindex := true }
  callIgnore env

/-- The first version 2.0 upgrade block: with `-resyncforblockindexupgrade` an old
    chainstate (`nPreviousVersion < 1`) has its block index erased. -/
def eraseBeforeLoad : LoadM Bool :=
  upgradeOnce (do pure ((← readState env) && cfg.resyncForBlockIndexUpgrade)) (eraseBlockIndex env)

/-- The body of the second version 2.0 upgrade block: the block index is upgraded in place
    (`UpgradeBlockIndex`), flushed (`FlushStateToDisk()` through `pcoinsTip`) and unloaded,
    or, when the upgrade fails or a resync was asked for, erased. -/
def upgradeOrErase : LoadM Unit := do
  let fullResyncForUpgrade ← if cfg.resyncForBlockIndexUpgrade then pure true else do
    if (← call env) then
      onStores (·.use .pcoinsTip)
      callIgnore env
      callIgnore env
      pure false
    else pure true
  if fullResyncForUpgrade then eraseBlockIndex env

/-- The second version 2.0 upgrade block, for an old chainstate. -/
def upgradeAfterLoad : LoadM Bool :=
  upgradeOnce (readState env) (upgradeOrErase cfg env)

/-- `if (!fReindex && chainActive.Tip() != NULL)`: `RewindBlockIndex`. -/
def rewindBlockIndex : LoadM Unit := do
  if !(← get).fReindex then
    if (← readState env) then
      require (← call env)
        "Unable to rewind the database to a pre-fork state. You will need to redownload the blockchain"

/-- From the genesis check to `CVerifyDB::VerifyDB`. -/
def verifyLoaded : LoadM Unit := do
  initErrorIf (← readState env)
    "Incorrect or no genesis block found. Wrong datadir for network?"
  require (← call env) "Error initializing block database"
  require (!(← readState env))
    "You need to rebuild the database using -reindex-chainstate to change -txindex"
  require (!((← readState env) && !cfg.fPruneMode))
    "You need to rebuild the database using -reindex to go back to unpruned mode.  This will redownload the entire blockchain"
  rewindBlockIndex env
  require (!(← readState env))
    "The block database contains a block which appears to be from the future. This may be due to your computer\x27s date and time being set incorrectly. Only rebuild the block database if you are sure that your computer\x27s date and time are correct"
  require (← call env) "Corrupted block database detected"

/-- `LoadBlockIndex` and what follows it. -/
def loadAndVerify : LoadM Reached := do
  require (← call env) "Error loading block database"
  if (← upgradeAfterLoad cfg env) then pure .loadblockindex
  else do
    verifyLoaded cfg env
    pure .fLoaded

/-- The `try` block from `loadblockindex:` on. -/
def pass : LoadM Reached := do
  openStores env
  prepare cfg env
  if (← eraseBeforeLoad cfg env) then pure .loadblockindex
  else loadAndVerify cfg env

end Pass

/-- Where the `while (!fLoaded)` loop is. -/
inductive Phase
  /-- at the loop condition: a new attempt begins -/
  | whileTop
  /-- at `loadblockindex:` inside the `try` -/
  | loadblockindex
  /-- after `do { } while (false)` with `fLoaded` false -/
  | failed
  /-- the loop has ended with `fLoaded` -/
  | loaded
  /-- AppInitMain has returned false -/
  | returned
  deriving DecidableEq, Repr

/-- The loop's state: the `try` block's, `fReset`, and where the loop is. `nAsk` counts
    the questions asked; `nAttempt` and `nGoto` count attempts begun and jumps back to
    `loadblockindex`, and nothing reads them. -/
structure LoopState where
  pass : PassState
  fReset : Bool
  phase : Phase
  nAsk : Nat
  nAttempt : Nat
  nGoto : Nat

/-- The state when AppInitMain reaches the loop: every store pointer null, and
    `upgradeOnceOnly` at its static initial value. -/
def LoopState.init (fReindex : Bool) : LoopState :=
  ⟨⟨Stores.empty, fReindex, true, "", 0, 0, 0⟩, false, .whileTop, 0, 0, 0⟩

/-- Leaving the `try` block early: the `catch` turns an exception into
    "Error opening block database" and a `break`. -/
def leaveTry (s : LoopState) : Exit → PassState → LoopState
  | .brk, p => { s with pass := p, phase := .failed }
  | .raise, p => { s with pass := { p with strLoadError := "Error opening block database" }, phase := .failed }
  | .initError _, p => { s with pass := p, phase := .returned }

/-- One step of the loop. -/
def step (cfg : LoadConfig) (env : Env) (s : LoopState) : LoopState :=
  match s.phase with
  | .whileTop =>
    let s := { s with fReset := s.pass.fReindex, nAttempt := s.nAttempt + 1,
                      pass := { s.pass with strLoadError := "" } }
    match (call env).run' s.pass with
    | (.ok _, p) => { s with pass := p, phase := .loadblockindex }
    | (.error e, p) => leaveTry s e p
  | .loadblockindex =>
    match (pass cfg env).run' s.pass with
    | (.ok .fLoaded, p) => { s with pass := p, phase := .loaded }
    | (.ok .loadblockindex, p) => { s with pass := p, nGoto := s.nGoto + 1 }
    | (.error e, p) => leaveTry s e p
  | .failed =>
    if s.fReset then { s with phase := .returned }
    else if env.answer s.nAsk = some true then
      { s with nAsk := s.nAsk + 1, pass := { s.pass with fReindex := true }, phase := .whileTop }
    else { s with nAsk := s.nAsk + 1, phase := .returned }
  | .loaded => s
  | .returned => s

/-- `n` steps of the loop. -/
def run (cfg : LoadConfig) (env : Env) : Nat → LoopState → LoopState
  | 0, s => s
  | n + 1, s => run cfg env n (step cfg env s)

end gulden.load_loop
