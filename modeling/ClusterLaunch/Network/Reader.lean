import ClusterLaunch.Network.Block
import ClusterLaunch.Text.Basic
import ClusterLaunch.Text.Quoted

/-! # Reading addresses and blocks

A block is an address, a slash and a mask. The mask is the number of leading bits, or a dotted
netmask, or a dotted hostmask. Blanks around the text are dropped, and bits of the address
beyond the mask are cleared.
-/

namespace ClusterLaunch.Network

/-- Why a text is no address or no block. The text is kept as a message shows it. -/
inductive FormatError where
  | missingLength (shown : String)
  | malformedBlock (shown : String)
  | malformedAddress (shown : String)
  deriving DecidableEq

def FormatError.message : FormatError → String
  | .missingLength shown => "invalid CIDR block (missing prefix length): " ++ shown
  | .malformedBlock shown => "invalid CIDR block: " ++ shown
  | .malformedAddress shown => "invalid IPv4 address: " ++ shown

/-- The number whose leading `bits` of 32 bits are set. -/
def netmask (bits : Nat) : Nat := Nat.pow 2 32 - Nat.pow 2 (32 - bits)

/-- The number whose bits after the leading `bits` are set. -/
def hostmask (bits : Nat) : Nat := Nat.pow 2 (32 - bits) - 1

/-- The longest decimal numeral that is read as a length. -/
def maxNumeral : Nat := 4300

/-- The number of leading bits that a dotted mask stands for, a netmask before a hostmask. -/
def bitsOfMask? (mask : Nat) : Option Nat :=
  (List.range 33).find? (netmask · == mask) <|> (List.range 33).find? (hostmask · == mask)

def bits? (s : List Char) : Option Nat :=
  if s ≠ [] ∧ s.all Char.isDigit then
    if s.length ≤ maxNumeral ∧ Text.number s ≤ 32 then some (Text.number s) else none
  else (Address.ofText? s).bind fun mask => bitsOfMask? mask.toNat

/-- The block that a text without surrounding blanks writes. -/
def Block.ofText? (s : List Char) : Option Block :=
  match Text.fields '/' s with
  | [address, mask] => do
    let a ← Address.ofText? address
    let bits ← bits? mask
    if h : bits ≤ 32 then some (Block.around a bits h) else none
  | _ => none

/-- Read an address from a text that messages show as `shown`. -/
def Address.readAs (shown text : String) : Except FormatError Address :=
  match Address.ofText? (Text.strip text.toList) with
  | some a => .ok a
  | none => .error (.malformedAddress shown)

def Block.readAs (shown text : String) : Except FormatError Block :=
  let s := Text.strip text.toList
  if '/' ∉ s then .error (.missingLength shown)
  else match Block.ofText? s with
    | some b => .ok b
    | none => .error (.malformedBlock shown)

def Address.read (text : String) : Except FormatError Address :=
  Address.readAs (Text.quoted text) text

def Block.read (text : String) : Except FormatError Block :=
  Block.readAs (Text.quoted text) text

end ClusterLaunch.Network
