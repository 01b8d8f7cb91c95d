import LiveConfig.Number.Integer
import LiveConfig.Net.Url
import LiveConfig.Time.Duration

/-!
The types that a property can be converted to, and the values of these types.

`Target.name` is the full name of a type, as error messages tell it.
-/
namespace LiveConfig

inductive IntegerType where
  | i8
  | i16
  | i32
  | i64
  | i128
  | isize
  | u8
  | u16
  | u32
  | u64
  | u128
  | usize
  deriving DecidableEq, Repr

namespace IntegerType

def range : IntegerType → Number.Range
  | .i8 => ⟨true, 8⟩
  | .i16 => ⟨true, 16⟩
  | .i32 => ⟨true, 32⟩
  | .i64 => ⟨true, 64⟩
  | .i128 => ⟨true, 128⟩
  | .isize => ⟨true, 64⟩
  | .u8 => ⟨false, 8⟩
  | .u16 => ⟨false, 16⟩
  | .u32 => ⟨false, 32⟩
  | .u64 => ⟨false, 64⟩
  | .u128 => ⟨false, 128⟩
  | .usize => ⟨false, 64⟩

def name : IntegerType → String
  | .i8 => "i8"
  | .i16 => "i16"
  | .i32 => "i32"
  | .i64 => "i64"
  | .i128 => "i128"
  | .isize => "isize"
  | .u8 => "u8"
  | .u16 => "u16"
  | .u32 => "u32"
  | .u64 => "u64"
  | .u128 => "u128"
  | .usize => "usize"

end IntegerType

inductive Scalar where
  | integer (t : IntegerType)
  | single
  | double
  | boolean
  | character
  | text
  | path
  | address
  | addressV4
  | addressV6
  | socket
  | url
  | duration
  deriving DecidableEq, Repr

inductive Collection where
  | vector
  | deque
  | boxed
  | orderedSet
  | plainSet
  | sortedSet
  deriving DecidableEq, Repr

inductive Target where
  | scalar (s : Scalar)
  | option (t : Target)
  | collection (c : Collection) (t : Target)
  | array (length : Nat) (t : Target)
  | edited (t : Target)
  | parsed (t : Target)
  deriving DecidableEq, Repr

def Scalar.name : Scalar → String
  | .integer t => t.name
  | .single => "f32"
  | .double => "f64"
  | .boolean => "bool"
  | .character => "char"
  | .text => "alloc::string::String"
  | .path => "std::path::PathBuf"
  | .address => "core::net::ip_addr::IpAddr"
  | .addressV4 => "core::net::ip_addr::Ipv4Addr"
  | .addressV6 => "core::net::ip_addr::Ipv6Addr"
  | .socket => "core::net::socket_addr::SocketAddr"
  | .url => "url::Url"
  | .duration => "core::time::Duration"

def Collection.name (elements : String) : Collection → String
  | .vector => "alloc::vec::Vec<" ++ elements ++ ">"
  | .deque => "alloc::collections::vec_deque::VecDeque<" ++ elements ++ ">"
  | .boxed => "alloc::boxed::Box<[" ++ elements ++ "]>"
  | .orderedSet => "indexmap::set::IndexSet<" ++ elements ++ ">"
  | .plainSet => "std::collections::hash::set::HashSet<" ++ elements ++ ">"
  | .sortedSet => "alloc::collections::btree::set::BTreeSet<" ++ elements ++ ">"

def Target.name : Target → String
  | .scalar s => s.name
  | .option t => "core::option::Option<" ++ t.name ++ ">"
  | .collection c t => c.name t.name
  | .array n t => "[" ++ t.name ++ "; " ++ toString n ++ "]"
  | .edited t => "strata_config::convert::editor::Edited<" ++ t.name ++ ">"
  | .parsed t => "strata_config::convert::editor::Parsed<" ++ t.name ++ ">"

/-- Values of all types.  Floating-point numbers are given by their patterns; wrapped values are
the values they wrap. -/
inductive Value where
  | integer (n : Int)
  | single (bits : Nat)
  | double (bits : Nat)
  | boolean (b : Bool)
  | character (c : Char)
  | text (s : String)
  | address (a : Net.IPAddress)
  | socket (a : Net.SocketAddress)
  | url (u : Net.Url)
  | duration (d : Time.Duration)
  | absent
  | present (v : Value)
  | items (vs : List Value)
  deriving Inhabited

end LiveConfig
