import RestTemplates.Unicode.Mark

/-!
# Joining — how letters of cursive scripts connect

A letter may connect to the one before it, to the one after it, or to both; a nonspacing mark lets
its neighbours connect across it.  The types are the joining types of Unicode 17 as far as
characters of names are concerned.
-/

namespace RestTemplates

namespace Unicode

inductive Joining
  /-- Connects to the letter after it. -/
  | leading
  /-- Connects to the letter before it. -/
  | trailing
  /-- Connects to both. -/
  | dual
  /-- Is passed over. -/
  | transparent
  /-- Connects to none. -/
  | alone
  deriving DecidableEq, Repr

/-- The characters other than marks that connect. -/
def joinings : RangeTable Joining :=
  #[
    (0x620, 0x620, .dual), (0x622, 0x625, .trailing), (0x626, 0x626, .dual),
    (0x627, 0x627, .trailing), (0x628, 0x628, .dual), (0x629, 0x629, .trailing),
    (0x62A, 0x62E, .dual), (0x62F, 0x632, .trailing), (0x633, 0x63F, .dual), (0x641, 0x647, .dual),
    (0x648, 0x648, .trailing), (0x649, 0x64A, .dual), (0x66E, 0x66F, .dual),
    (0x671, 0x673, .trailing), (0x679, 0x687, .dual), (0x688, 0x699, .trailing),
    (0x69A, 0x6BF, .dual), (0x6C0, 0x6C0, .trailing), (0x6C1, 0x6C2, .dual),
    (0x6C3, 0x6CB, .trailing), (0x6CC, 0x6CC, .dual), (0x6CD, 0x6CD, .trailing),
    (0x6CE, 0x6CE, .dual), (0x6CF, 0x6CF, .trailing), (0x6D0, 0x6D1, .dual),
    (0x6D2, 0x6D3, .trailing), (0x6D5, 0x6D5, .trailing), (0x6EE, 0x6EF, .trailing),
    (0x6FA, 0x6FC, .dual), (0x6FF, 0x6FF, .dual), (0x710, 0x710, .trailing), (0x712, 0x714, .dual),
    (0x715, 0x719, .trailing), (0x71A, 0x71D, .dual), (0x71E, 0x71E, .trailing),
    (0x71F, 0x727, .dual), (0x728, 0x728, .trailing), (0x729, 0x729, .dual),
    (0x72A, 0x72A, .trailing), (0x72B, 0x72B, .dual), (0x72C, 0x72C, .trailing),
    (0x72D, 0x72E, .dual), (0x72F, 0x74D, .trailing), (0x74E, 0x758, .dual),
    (0x759, 0x75B, .trailing), (0x75C, 0x76A, .dual), (0x76B, 0x76C, .trailing),
    (0x76D, 0x770, .dual), (0x771, 0x771, .trailing), (0x772, 0x772, .dual),
    (0x773, 0x774, .trailing), (0x775, 0x777, .dual), (0x778, 0x779, .trailing),
    (0x77A, 0x77F, .dual), (0x7CA, 0x7EA, .dual), (0x840, 0x840, .trailing), (0x841, 0x845, .dual),
    (0x846, 0x847, .trailing), (0x848, 0x848, .dual), (0x849, 0x849, .trailing),
    (0x84A, 0x853, .dual), (0x854, 0x854, .trailing), (0x855, 0x855, .dual),
    (0x856, 0x858, .trailing), (0x860, 0x860, .dual), (0x862, 0x865, .dual),
    (0x867, 0x867, .trailing), (0x868, 0x868, .dual), (0x869, 0x882, .trailing),
    (0x886, 0x886, .dual), (0x889, 0x88D, .dual), (0x88E, 0x88E, .trailing), (0x88F, 0x8A9, .dual),
    (0x8AA, 0x8AC, .trailing), (0x8AE, 0x8AE, .trailing), (0x8AF, 0x8B0, .dual),
    (0x8B1, 0x8B2, .trailing), (0x8B3, 0x8B8, .dual), (0x8B9, 0x8B9, .trailing),
    (0x8BA, 0x8C8, .dual), (0x1807, 0x1807, .dual), (0x1820, 0x1878, .dual),
    (0x1887, 0x18AA, .dual), (0xA840, 0xA871, .dual), (0xA872, 0xA872, .leading),
    (0x10AC0, 0x10AC4, .dual), (0x10AC5, 0x10AC5, .trailing), (0x10AC7, 0x10AC7, .trailing),
    (0x10AC9, 0x10ACA, .trailing), (0x10ACD, 0x10ACD, .leading), (0x10ACE, 0x10AD2, .trailing),
    (0x10AD3, 0x10AD6, .dual), (0x10AD7, 0x10AD7, .leading), (0x10AD8, 0x10ADC, .dual),
    (0x10ADD, 0x10ADD, .trailing), (0x10ADE, 0x10AE0, .dual), (0x10AE1, 0x10AE1, .trailing),
    (0x10AE4, 0x10AE4, .trailing), (0x10AEB, 0x10AEE, .dual), (0x10AEF, 0x10AEF, .trailing),
    (0x10B80, 0x10B80, .dual), (0x10B81, 0x10B81, .trailing), (0x10B82, 0x10B82, .dual),
    (0x10B83, 0x10B85, .trailing), (0x10B86, 0x10B88, .dual), (0x10B89, 0x10B89, .trailing),
    (0x10B8A, 0x10B8B, .dual), (0x10B8C, 0x10B8C, .trailing), (0x10B8D, 0x10B8D, .dual),
    (0x10B8E, 0x10B8F, .trailing), (0x10B90, 0x10B90, .dual), (0x10B91, 0x10B91, .trailing),
    (0x10BA9, 0x10BAC, .trailing), (0x10BAD, 0x10BAE, .dual), (0x10D00, 0x10D00, .leading),
    (0x10D01, 0x10D21, .dual), (0x10D22, 0x10D22, .trailing), (0x10D23, 0x10D23, .dual),
    (0x10EC2, 0x10EC2, .trailing), (0x10EC3, 0x10EC4, .dual), (0x10EC6, 0x10EC7, .dual),
    (0x10F30, 0x10F32, .dual), (0x10F33, 0x10F33, .trailing), (0x10F34, 0x10F44, .dual),
    (0x10F51, 0x10F53, .dual), (0x10F54, 0x10F54, .trailing), (0x10F70, 0x10F73, .dual),
    (0x10F74, 0x10F75, .trailing), (0x10F76, 0x10F81, .dual), (0x10FB0, 0x10FB0, .dual),
    (0x10FB2, 0x10FB3, .dual), (0x10FB4, 0x10FB6, .trailing), (0x10FB8, 0x10FB8, .dual),
    (0x10FB9, 0x10FBA, .trailing), (0x10FBB, 0x10FBC, .dual), (0x10FBD, 0x10FBD, .trailing),
    (0x10FBE, 0x10FBF, .dual), (0x10FC1, 0x10FC1, .dual), (0x10FC2, 0x10FC3, .trailing),
    (0x10FC4, 0x10FC4, .dual), (0x10FC9, 0x10FC9, .trailing), (0x10FCA, 0x10FCA, .dual),
    (0x10FCB, 0x10FCB, .leading), (0x1E922, 0x1E943, .dual), (0x1E94B, 0x1E94B, .transparent)
  ]

def joining (c : Char) : Joining :=
  if isNonspacing c then .transparent else (joinings.find? c.toNat).getD .alone

end Unicode

end RestTemplates
