import Wardoff.Runtime.Policy

/-!
# The command line and what it asks for (`src/cli.rs`, `src/runtime_policy.rs`)

What `clap` makes of the arguments of a process is a parameter of the model (`Parser`);
`LawfulParser` says what Wardoff relies on there. An `unreachable!` is `none`.
-/

namespace Launch

open Blocker (BlockerMode)
open Ipc (IpcRequest)
open Runtime (RuntimeOptions)

inductive RequestedAction where
  | default
  | block
  | allow
  | status
  | hide
  | autostart (enabled : Bool)
  | log (tail : Nat)
  deriving DecidableEq, Repr

inductive CliAutostartState where
  | on
  | off
  deriving DecidableEq, Repr

structure WardoffCli where
  block : Bool := false
  allow : Bool := false
  status : Bool := false
  hide : Bool := false
  autostart : Option CliAutostartState := none
  log : Bool := false
  tail : Option Nat := none
  elevatedRelaunch : Bool := false
  detachedRuntime : Bool := false
  deriving DecidableEq, Repr

def defaultTailLineCount : Nat := 20

def WardoffCli.requestedAction (cli : WardoffCli) : RequestedAction :=
  if cli.allow then .allow
  else if cli.status then .status
  else if cli.hide then .hide
  else if cli.block then .block
  else match cli.autostart with
    | some autostart => .autostart (autostart == .on)
    | none => if cli.log then .log (cli.tail.getD defaultTailLineCount) else .default

def internalDetachedRuntimeArg : String := "--wardoff-detached-runtime"

def internalElevatedRelaunchArg : String := "--wardoff-elevated-relaunch"

/-- `WardoffCli::parse`, of the arguments after the name of the program; where it does not return,
the process ends with an exit code. -/
abbrev Parser : Type := List String → Except Int WardoffCli

/-- The two internal switches are flags: they are given exactly if they are among the arguments, and
giving one more changes nothing else. After `--` there are no flags, and Wardoff takes no other
arguments. -/
structure LawfulParser (parse : Parser) : Prop where
  elevated : ∀ {args cli}, parse args = .ok cli →
    (cli.elevatedRelaunch = true ↔ internalElevatedRelaunchArg ∈ args)
  detached : ∀ {args cli}, parse args = .ok cli →
    (cli.detachedRuntime = true ↔ internalDetachedRuntimeArg ∈ args)
  relaunched : parse [internalElevatedRelaunchArg] = .ok { elevatedRelaunch := true }
  append : ∀ {args cli}, parse args = .ok cli → internalDetachedRuntimeArg ∉ args → "--" ∉ args →
    parse (args ++ [internalDetachedRuntimeArg]) = .ok { cli with detachedRuntime := true }
  escaped : ∀ {args}, "--" ∈ args → ∃ code, parse (args ++ [internalDetachedRuntimeArg]) =
    .error code

/-- The options of a runtime. -/
def runtimeOptionsFor : RequestedAction → Option RuntimeOptions
  | .default => some ⟨.block, .visible⟩
  | .block => some ⟨.block, .headless⟩
  | .allow => some ⟨.allow, .visible⟩
  | .hide => some ⟨.block, .hidden⟩
  | .autostart _ => none
  | .status => none
  | .log _ => none

/-- The request to a primary that is running already. -/
def ipcRequestFor : RequestedAction → Option IpcRequest
  | .default => some (.setMode .block)
  | .block => some (.setMode .block)
  | .hide => some (.setMode .block)
  | .allow => some (.setMode .allow)
  | .autostart enabled => some (.setAutostart enabled)
  | .status => none
  | .log _ => none

end Launch
