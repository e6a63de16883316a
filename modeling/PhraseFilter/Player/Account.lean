/-!
# Account numbers

The service knows an account by a small number. The same account has a second, 64-bit number, which is
larger by a fixed offset; `AccountId.ofAny` takes either to the small one.
-/

namespace PhraseFilter

abbrev AccountId := UInt64

namespace AccountId

/-- The offset between the 64-bit number of an account and its small number. -/
def offset : UInt64 := 76561197960265728

/-- The account with the given number, which may be the small or the 64-bit one. -/
def ofAny (n : UInt64) : AccountId := if offset < n then n - offset else n

def profilePage (id : AccountId) : String :=
  "https://www.opendota.com/players/" ++ toString id.toNat

end AccountId

end PhraseFilter
