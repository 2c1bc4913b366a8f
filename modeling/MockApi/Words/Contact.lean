import MockApi.Words.Table

/-!
Company names and telephone numbers.
-/
namespace MockApi.Words

def companySuffixes : Array String := entries
  ["Inc;and Sons;LLC;Group"]

/-- Telephone numbers: a number sign for any digit, a caret for one above zero. -/
def phoneFormats : Array String := entries
  ["(^##) ###-#### x###;(^##) ###-#### x####;(^##) ###-#### x#####;(^##) ###-####",
    "1-^##-###-#### x###;1-^##-###-#### x####;1-^##-###-#### x#####;1-^##-###-####",
    "^##-###-#### x###;^##-###-#### x####;^##-###-#### x#####;^##-###-####;^##.###.#### x###",
    "^##.###.#### x####;^##.###.#### x#####;^##.###.####"]

end MockApi.Words
