import Contactless.Chip
import Contactless.Config
import Contactless.TypeA.Ats

/-!
Activation of a type A tag: wake-up, anti-collision and select over up to three cascade levels, then
the request for an answer to select when the tag takes part in ISO/IEC 14443-4. Frames go out
exactly as built; the chip's own framing is switched back on at the end, whatever the outcome.
-/
namespace Contactless.TypeA

inductive Stage where
  | idle
  | requested
  | arbitration (level : CascadeLevel)
  | selected (level : CascadeLevel)
  | ratsSent
  | activated
  /-- Nobody answered the wake-up. -/
  | noTag
deriving DecidableEq

/-- An oddity in how a tag gives its identifier, which is no failure. -/
inductive Warning where
  | bccMismatch (level : CascadeLevel) (expected actual : UInt8)
  /-- The group of a level that is not the last one starts with another byte. -/
  | cascadeTagMismatch (level : CascadeLevel) (actual : UInt8)
deriving DecidableEq

structure Activation where
  target : Target
  warnings : List Warning
deriving DecidableEq

/-- Somebody who activates tags: what to send, and the progress of the latest attempt. -/
structure Activator where
  timeout : Timeout
  wakeup : Wakeup
  ratsParam : UInt8
  stage : Stage := .idle
  level : CascadeLevel := .one
  /-- The four-byte groups received, cascade tags included. -/
  groups : Bytes := []
  sak : UInt8 := 0
  warnings : List Warning := []
deriving DecidableEq

namespace Activator

def ofConfig (c : Config) : Activator :=
  { timeout := c.commandTimeout, wakeup := c.wakeup, ratsParam := c.ratsParam }

def reset (a : Activator) : Activator :=
  { a with stage := .idle, level := .one, groups := [], sak := 0, warnings := [] }

def enter (stage : Stage) : Act Chip Activator Unit := modify fun a => { a with stage }

def warn (w : Warning) : Act Chip Activator Unit :=
  modify fun a => { a with warnings := a.warnings ++ [w] }

def readAtqa (frame : BitFrame) : Except Error (Octets 2) :=
  match frame with
  | ⟨data, bits, h⟩ =>
    if hb : bits = 16 then .ok ⟨data, by omega⟩
    else .error (.framing s!"ATQA must be 2 bytes, got {bits} bits")

def wake : Act Chip Activator (Octets 2) := do
  enter .requested
  let a ← get
  let frame ← Chip.exchangeFrame a.wakeup.frame a.timeout
  Act.ofExcept (readAtqa frame)

def readGroup (frame : BitFrame) : Except Error (Octets 5) :=
  if frame.isWhole then Octets.ofBytes 5 frame.data else .error .bitCollision

def anticollision (level : CascadeLevel) : Act Chip Activator (Octets 5) := do
  enter (.arbitration level)
  let frame ← Chip.exchangeFrame (.ofBytes (TypeA.anticollision level)) (← get).timeout
  let chunk ← Act.ofExcept (readGroup frame)
  match checkBcc chunk with
  | .valid => pure ()
  | .mismatch expected actual => warn (.bccMismatch level expected actual)
  return chunk

def select (level : CascadeLevel) (chunk : Octets 5) : Act Chip Activator UInt8 := do
  let frame ← Chip.exchangeBytes (TypeA.select level chunk) (← get).timeout
  Act.ofExcept (parseSak frame)

def rats : Act Chip Activator Bytes := do
  let a ← get
  let frame ← Chip.exchangeBytes (TypeA.rats a.ratsParam) a.timeout
  Act.ofExcept (parseAts frame)

/-- The group to select at a level: the one of the wanted identifier, or the one the tag gives. -/
def groupAt (wanted : Option (List (Octets 5))) (level : CascadeLevel) :
    Act Chip Activator (Octets 5) :=
  match wanted with
  | none => anticollision level
  | some chunks =>
    match chunks[level.index]? with
    | some chunk => pure chunk
    | none => throw (.rfProtocol
        s!"tag asks for cascade level {level.number} beyond the given UID")

/-- A tag complete at a level has an identifier of as many groups as were wanted. -/
def checkComplete (wanted : Option (List (Octets 5))) (level : CascadeLevel) : Except Error Unit :=
  match wanted with
  | none => .ok ()
  | some chunks =>
    if chunks.length = level.index + 1 then .ok ()
    else .error (.rfProtocol
      (s!"UID complete at cascade level {level.number}"
        ++ s!" but {chunks.length} levels were given"))

/-- What a level comes to: the whole identifier, or one more level. -/
inductive LevelEnd where
  | complete (uid : Bytes) (sak : UInt8)
  | cascade (resolved : Bytes)

/-- Resolve one level, after the identifier bytes of the levels before it. -/
def resolveLevel (wanted : Option (List (Octets 5))) (level : CascadeLevel) (resolved : Bytes) :
    Act Chip Activator LevelEnd := do
  modify fun a => { a with level }
  let chunk ← groupAt wanted level
  let sak ← select level chunk
  modify fun a => { a with
    groups := a.groups ++ chunk.toList.take 4
    sak
    stage := .selected level }
  if sakCascade sak then
    if groupHead chunk ≠ cascadeTag then warn (.cascadeTagMismatch level (groupHead chunk))
    return .cascade (resolved ++ (chunk.toList.drop 1).take 3)
  else
    Act.ofExcept (checkComplete wanted level)
    return .complete (resolved ++ chunk.toList.take 4) sak

def resolve (wanted : Option (List (Octets 5))) :
    List CascadeLevel → Bytes → Act Chip Activator (Bytes × UInt8)
  | [], _ => throw (.rfProtocol "cascade bit set at cascade level 3")
  | level :: rest, resolved => do
    match ← resolveLevel wanted level resolved with
    | .complete uid sak => return (uid, sak)
    | .cascade resolved => resolve wanted rest resolved

/-- Everything after the wake-up was answered. -/
def identify (wanted : Option Uid) (atqa : Octets 2) : Act Chip Activator Activation := do
  let (resolved, sak) ← resolve (wanted.map Uid.groups) [.one, .two, .three] []
  let ats ← if sakPart4 sak then do
      enter .ratsSent
      rats
    else pure []
  let uid ← Act.ofExcept (Uid.ofBytes resolved)
  enter .activated
  modifyGet fun a => (⟨.typeA atqa sak uid ats, a.warnings⟩, { a with warnings := [] })

/-- One attempt, with the framing left to it. -/
def attempt (wanted : Option Uid) : Act Chip Activator (Option Activation) := do
  modify reset
  match ← Act.attempt wake with
  | .ok atqa => return some (← identify wanted atqa)
  | .error e =>
    if e.isTimeout then
      enter .noTag
      return none
    else throw e

/-- Activate the tag in the field; nobody there is no failure. A wanted identifier is selected
without anti-collision. -/
def activate (wanted : Option Uid) : Act Chip Activator (Option Activation) :=
  Chip.withRawFraming (attempt wanted)

end Activator

end Contactless.TypeA
