import AgentFlow.Agent.Promotion
import AgentFlow.Agent.Resolver
import AgentFlow.Config
import AgentFlow.Console.Item
import AgentFlow.Log.Setup

/-!
# Actions

A command works on files, prints, and ends: with an exit code, by an error that it does
not handle, or because the machine was stopped.
-/

namespace AgentFlow.CommandLine

open AgentFlow.Console

/-- What a command works with: whose home directories there are, what day it is, and how
the reasons of errors are worded. -/
structure Context where
  homes : Homes
  today : Date
  explain : Fault → String

/-- What a program has come to: the machine, what is printed so far, and how it logs. -/
structure Terminal where
  machine : Machine
  printed : List Item
  setup : Log.Setup

/-- Why an action ends before its end. -/
inductive Ending where
  | exit (code : Nat)
  | failed (error : Error)
  | stopped

/-- A part of what a command does. -/
abbrev Action (α : Type) := ExceptT Ending (StateM Terminal) α

namespace Action

variable {α : Type}

/-- Work on files as a part of an action. -/
def ofWork (part : Work Error α) : Action α := do
  let terminal ← get
  let (result, machine) := part terminal.machine
  set { terminal with machine := machine }
  match result with
  | .ok a => return a
  | .error (.failed e) => throw (.failed e)
  | .error .stopped => throw .stopped

/-- An answer, or an error that ends the action. -/
def ofExcept (result : Except Error α) : Action α :=
  match result with
  | .ok a => return a
  | .error e => throw (.failed e)

/-- Ask something about the disk. -/
def ask (question : Disk → Except Error α) : Action α := do
  ofExcept (question (← get).machine.disk)

/-- Print an item, unless it cannot be made. -/
def print (item : Except Error Item) : Action Unit := do
  let item ← ofExcept item
  modify fun terminal => { terminal with printed := terminal.printed ++ [item] }

/-- Print a marked-up text. -/
def say (text : String) : Action Unit := print (Console.text text)

/-- End with an exit code. -/
def exit (code : Nat) : Action α := throw (.exit code)

/-- The exit code of a command that could not do its work. -/
def failureCode : Nat := 1

/-- Print a message and end. -/
def refuse (message : String) : Action α := do
  say (styled "red" (escape message))
  exit failureCode

/-- Handle some of the errors of an action; the others go on. -/
def handling (isHandled : Error → Bool) (part : Action α) (handle : Error → Action α) :
    Action α :=
  fun terminal =>
    match part terminal with
    | (.error (.failed e), after) =>
      if isHandled e then handle e after else (.error (.failed e), after)
    | answer => answer

end Action

/-- Whether an error is one of the library's own. -/
def isOwn (e : Error) : Bool := e.kind?.isSome

/-- The text of an error in a context. -/
def Context.wording (context : Context) (e : Error) : String := e.messageWith context.explain

/-- Open the store of a configuration.  A promotion that was stopped is completed first. -/
def openStore (context : Context) (config : Config) : Action Store := do
  let store ← Action.ofExcept (config.store context.homes)
  let _ ← Action.ofWork store.recover
  return store

/-- The resolver of a configuration. -/
def resolverOf (config : Config) (store : Store) : Except Error Resolver :=
  config.builtinNames.map (Resolver.ofStore store)

end AgentFlow.CommandLine
