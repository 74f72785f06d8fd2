/-!
# Bounds

The widths of the integers that records and messages carry.
-/

namespace PollRoster

/-- The least identifier, that of a signed integer of 64 bits. -/
def minId : Int := -9223372036854775808

def maxId : Int := 9223372036854775807

/-- The greatest number of a section or district, and the greatest count of electors: that of an
unsigned integer of 32 bits. -/
def maxNumber : Nat := 4294967295

/-- The greatest count, that of an unsigned integer of 64 bits. -/
def maxCount : Nat := 18446744073709551615

end PollRoster
