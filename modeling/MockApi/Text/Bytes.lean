/-!
Sizes of texts in bytes of their UTF-8 form.
-/
namespace MockApi.Text

def byteCount (text : List Char) : Nat := text.foldl (fun n c => n + c.utf8Size) 0

end MockApi.Text
