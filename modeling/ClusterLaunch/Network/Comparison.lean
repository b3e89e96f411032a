import ClusterLaunch.Network.Reader
import ClusterLaunch.Value.Basic

/-! # Comparing written blocks

The three questions about blocks and addresses that are still written out: containment, overlap
and membership. A value is read by its plain text, and a message shows it as it stands. What is
to lie inside is read before what it is to lie in.
-/

namespace ClusterLaunch.Network

def blockOf (d : Data) : Except FormatError Block := Block.readAs d.shown d.text

def addressOf (d : Data) : Except FormatError Address := Address.readAs d.shown d.text

def contains (outer inner : Data) : Except FormatError Bool := do
  let inside ← blockOf inner
  return (← blockOf outer).contains inside

def overlaps (a b : Data) : Except FormatError Bool := do
  let first ← blockOf a
  return first.overlaps (← blockOf b)

def containsAddress (network address : Data) : Except FormatError Bool := do
  let inside ← addressOf address
  return (← blockOf network).holds inside

end ClusterLaunch.Network
