import ServerLauncher.FileSystem.Basic

/-!
This module contains the relay between an editor and a server that is already running. Both directions
are copied piece by piece and independently of each other, until one side has nothing more to say.
-/

namespace ServerLauncher

/--
One direction: the bytes not read yet, those read but not written yet, and those written.
-/
structure Relay.Channel where
  unread : List UInt8
  held : List UInt8
  delivered : List UInt8
  /-- The sender closes its side after these bytes. -/
  closes : Bool
deriving DecidableEq, Repr

/--
Why a relay has ended.
-/
inductive Relay.Ending where
  | editorClosed
  | serverClosed
  /-- Reading or writing has failed, or the relay has been cancelled. -/
  | brokenOff
deriving DecidableEq, Repr

structure Relay where
  /-- From the editor to the server. -/
  upward : Relay.Channel
  /-- From the server to the editor. -/
  downward : Relay.Channel
  ending : Option Relay.Ending
deriving DecidableEq, Repr

namespace Relay

def Channel.start (bytes : List UInt8) (closes : Bool) : Channel :=
  ⟨bytes, [], [], closes⟩

def Channel.read (c : Channel) (count : Nat) : Channel :=
  -- What has been read earlier may still wait for being written.
  { c with unread := c.unread.drop count, held := c.held ++ c.unread.take count }

def Channel.write (c : Channel) (count : Nat) : Channel :=
  { c with held := c.held.drop count, delivered := c.delivered ++ c.held.take count }

/--
The sender has closed, and all of its bytes are written.
-/
def Channel.isDone (c : Channel) : Bool :=
  c.closes && c.unread.isEmpty && c.held.isEmpty

inductive Move where
  | readUpward (count : Nat)
  | writeUpward (count : Nat)
  | readDownward (count : Nat)
  | writeDownward (count : Nat)
  /-- Notice that the editor has closed. -/
  | endUpward
  /-- Notice that the server has closed. -/
  | endDownward
  | breakOff
deriving DecidableEq, Repr

def finished (r : Relay) : Bool :=
  r.ending.isSome

def step (r : Relay) (move : Move) : Relay :=
  if r.finished then r
  else match move with
    | .readUpward count => { r with upward := r.upward.read count }
    | .writeUpward count => { r with upward := r.upward.write count }
    | .readDownward count => { r with downward := r.downward.read count }
    | .writeDownward count => { r with downward := r.downward.write count }
    -- A side that has closed ends the relay for both, whatever the other one still sends.
    | .endUpward => if r.upward.isDone then { r with ending := some .editorClosed } else r
    | .endDownward => if r.downward.isDone then { r with ending := some .serverClosed } else r
    | .breakOff => { r with ending := some .brokenOff }

def run (r : Relay) (moves : List Move) : Relay :=
  moves.foldl step r

def start (fromEditor fromServer : List UInt8) (editorCloses serverCloses : Bool) : Relay :=
  ⟨.start fromEditor editorCloses, .start fromServer serverCloses, none⟩

/--
Steps that deliver everything and then notice the end. The bytes of the editor come first.
-/
def plainMoves (fromEditor fromServer : List UInt8) : List Move :=
  [.readUpward fromEditor.length, .writeUpward fromEditor.length,
    .readDownward fromServer.length, .writeDownward fromServer.length, .endUpward, .endDownward]

end Relay

end ServerLauncher
