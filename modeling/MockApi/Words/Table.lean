/-!
Tables of words, written in lines with semicolons between the entries.
-/
namespace MockApi.Words

def entries (lines : List String) : Array String := (lines.flatMap (·.splitOn ";")).toArray

end MockApi.Words
