/-! The limits of numbers of a fixed width. Unsigned numbers are below theirs, and signed
numbers lie between the least and the greatest. -/

set_option autoImplicit false

namespace ClusterBackup.Number

abbrev limit16 : Nat := 65536

abbrev limit32 : Nat := 4294967296

abbrev limit64 : Nat := 18446744073709551616

abbrev least32 : Int := -2147483648

abbrev greatest32 : Int := 2147483647

abbrev least64 : Int := -9223372036854775808

abbrev greatest64 : Int := 9223372036854775807

end ClusterBackup.Number
