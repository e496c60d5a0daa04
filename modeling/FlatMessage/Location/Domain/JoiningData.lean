import FlatMessage.Text.Run

/-!
# Joining data

The joining types of the characters that a domain name may hold: how a letter joins the
letters before and after it in a cursive script.
-/

namespace FlatMessage.Location.Domain

open FlatMessage.Text

/-- The code points of letters that join on both sides. -/
def dualJoiningRuns : List Run :=
  [⟨0x620, 0x620, 1⟩, ⟨0x626, 0x62E, 2⟩, ⟨0x62B, 0x62E, 1⟩, ⟨0x633, 0x63F, 1⟩,
    ⟨0x641, 0x647, 1⟩, ⟨0x649, 0x64A, 1⟩, ⟨0x66E, 0x66F, 1⟩, ⟨0x679, 0x687, 1⟩,
    ⟨0x69A, 0x6BF, 1⟩, ⟨0x6C1, 0x6C2, 1⟩, ⟨0x6CC, 0x6D0, 2⟩, ⟨0x6D1, 0x6D1, 1⟩,
    ⟨0x6FA, 0x6FC, 1⟩, ⟨0x6FF, 0x6FF, 1⟩, ⟨0x712, 0x714, 1⟩, ⟨0x71A, 0x71D, 1⟩,
    ⟨0x71F, 0x727, 1⟩, ⟨0x729, 0x72D, 2⟩, ⟨0x72E, 0x72E, 1⟩, ⟨0x74E, 0x758, 1⟩,
    ⟨0x75C, 0x76A, 1⟩, ⟨0x76D, 0x770, 1⟩, ⟨0x772, 0x772, 1⟩, ⟨0x775, 0x777, 1⟩,
    ⟨0x77A, 0x77F, 1⟩, ⟨0x7CA, 0x7EA, 1⟩, ⟨0x841, 0x845, 1⟩, ⟨0x848, 0x852, 2⟩,
    ⟨0x84B, 0x855, 2⟩, ⟨0x860, 0x864, 2⟩, ⟨0x863, 0x865, 1⟩, ⟨0x868, 0x868, 1⟩,
    ⟨0x886, 0x886, 1⟩, ⟨0x889, 0x88D, 1⟩, ⟨0x88F, 0x88F, 1⟩, ⟨0x8A0, 0x8A9, 1⟩,
    ⟨0x8AF, 0x8B0, 1⟩, ⟨0x8B3, 0x8B8, 1⟩, ⟨0x8BA, 0x8C8, 1⟩, ⟨0x1807, 0x1807, 1⟩,
    ⟨0x1820, 0x1878, 1⟩, ⟨0x1887, 0x18A8, 1⟩, ⟨0x18AA, 0x18AA, 1⟩, ⟨0xA840, 0xA871, 1⟩,
    ⟨0xFB52, 0xFB81, 1⟩, ⟨0xFB8E, 0xFBA3, 1⟩, ⟨0xFBA6, 0xFBAD, 1⟩, ⟨0xFBD3, 0xFBD6, 1⟩,
    ⟨0xFBE4, 0xFBE9, 1⟩, ⟨0xFBF6, 0xFC36, 1⟩, ⟨0xFC38, 0xFC5A, 1⟩, ⟨0xFC5D, 0xFC5D, 1⟩,
    ⟨0xFC66, 0xFC69, 1⟩, ⟨0xFC6C, 0xFC6F, 1⟩, ⟨0xFC72, 0xFC75, 1⟩, ⟨0xFC78, 0xFC7F, 1⟩,
    ⟨0xFC81, 0xFC87, 1⟩, ⟨0xFC89, 0xFC89, 1⟩, ⟨0xFC8C, 0xFC90, 1⟩, ⟨0xFC93, 0xFCF1, 1⟩,
    ⟨0xFCF5, 0xFD0C, 1⟩, ⟨0xFD11, 0xFD28, 1⟩, ⟨0xFD2D, 0xFD3B, 1⟩, ⟨0xFD50, 0xFD8F, 1⟩,
    ⟨0xFD92, 0xFDC7, 1⟩, ⟨0xFDF2, 0xFDF2, 1⟩, ⟨0xFDF5, 0xFDFC, 1⟩, ⟨0xFE89, 0xFE8C, 1⟩,
    ⟨0xFE8F, 0xFE92, 1⟩, ⟨0xFE95, 0xFEA8, 1⟩, ⟨0xFEB1, 0xFEEC, 1⟩, ⟨0xFEEF, 0xFEF4, 1⟩,
    ⟨0x10AC0, 0x10AC4, 1⟩, ⟨0x10AD3, 0x10AD6, 1⟩, ⟨0x10AD8, 0x10ADC, 1⟩, ⟨0x10ADE, 0x10AE0, 1⟩,
    ⟨0x10AEB, 0x10AEE, 1⟩, ⟨0x10B80, 0x10B82, 2⟩, ⟨0x10B86, 0x10B88, 1⟩, ⟨0x10B8A, 0x10B8B, 1⟩,
    ⟨0x10B8D, 0x10B8D, 1⟩, ⟨0x10B90, 0x10B90, 1⟩, ⟨0x10BAD, 0x10BAE, 1⟩, ⟨0x10D01, 0x10D21, 1⟩,
    ⟨0x10D23, 0x10D23, 1⟩, ⟨0x10EC3, 0x10EC4, 1⟩, ⟨0x10EC6, 0x10EC7, 1⟩, ⟨0x10F30, 0x10F44, 2⟩,
    ⟨0x10F31, 0x10F32, 1⟩, ⟨0x10F35, 0x10F44, 1⟩, ⟨0x10F51, 0x10F53, 1⟩, ⟨0x10F70, 0x10F73, 1⟩,
    ⟨0x10F76, 0x10F81, 1⟩, ⟨0x10FB0, 0x10FB2, 2⟩, ⟨0x10FB3, 0x10FB3, 1⟩, ⟨0x10FB8, 0x10FB8, 1⟩,
    ⟨0x10FBB, 0x10FBC, 1⟩, ⟨0x10FBE, 0x10FBF, 1⟩, ⟨0x10FC1, 0x10FC1, 1⟩, ⟨0x10FC4, 0x10FC4, 1⟩,
    ⟨0x10FCA, 0x10FCA, 1⟩, ⟨0x1E900, 0x1E943, 1⟩, ⟨0x1EE01, 0x1EE02, 1⟩, ⟨0x1EE07, 0x1EE12, 1⟩,
    ⟨0x1EE14, 0x1EE17, 1⟩, ⟨0x1EE19, 0x1EE7E, 1⟩, ⟨0x1EE81, 0x1EE82, 1⟩, ⟨0x1EE84, 0x1EE84, 1⟩,
    ⟨0x1EE87, 0x1EE92, 1⟩, ⟨0x1EE94, 0x1EE97, 1⟩, ⟨0x1EE99, 0x1EEA2, 1⟩, ⟨0x1EEA7, 0x1EEB2, 1⟩,
    ⟨0x1EEB4, 0x1EEB7, 1⟩, ⟨0x1EEB9, 0x1EEBB, 1⟩]

/-- The code points of letters that join what is before them. -/
def rightJoiningRuns : List Run :=
  [⟨0x622, 0x625, 1⟩, ⟨0x627, 0x629, 2⟩, ⟨0x62F, 0x632, 1⟩, ⟨0x648, 0x648, 1⟩,
    ⟨0x671, 0x673, 1⟩, ⟨0x688, 0x699, 1⟩, ⟨0x6C0, 0x6C0, 1⟩, ⟨0x6C3, 0x6CB, 1⟩,
    ⟨0x6CD, 0x6CF, 2⟩, ⟨0x6D2, 0x6D3, 1⟩, ⟨0x6D5, 0x6D5, 1⟩, ⟨0x6EE, 0x6EF, 1⟩,
    ⟨0x710, 0x710, 1⟩, ⟨0x715, 0x719, 1⟩, ⟨0x71E, 0x71E, 1⟩, ⟨0x728, 0x72C, 2⟩,
    ⟨0x72F, 0x72F, 1⟩, ⟨0x74D, 0x74D, 1⟩, ⟨0x759, 0x75B, 1⟩, ⟨0x76B, 0x76C, 1⟩,
    ⟨0x771, 0x773, 2⟩, ⟨0x774, 0x774, 1⟩, ⟨0x778, 0x779, 1⟩, ⟨0x840, 0x840, 1⟩,
    ⟨0x846, 0x847, 1⟩, ⟨0x849, 0x849, 1⟩, ⟨0x854, 0x858, 2⟩, ⟨0x857, 0x858, 1⟩,
    ⟨0x867, 0x881, 2⟩, ⟨0x86A, 0x882, 1⟩, ⟨0x88E, 0x88E, 1⟩, ⟨0x8AA, 0x8AC, 1⟩,
    ⟨0x8AE, 0x8AE, 1⟩, ⟨0x8B1, 0x8B2, 1⟩, ⟨0x8B9, 0x8B9, 1⟩, ⟨0xFB50, 0xFB51, 1⟩,
    ⟨0xFB82, 0xFB8D, 1⟩, ⟨0xFBA4, 0xFBA5, 1⟩, ⟨0xFBAE, 0xFBB1, 1⟩, ⟨0xFBD7, 0xFBDC, 1⟩,
    ⟨0xFBDE, 0xFBE3, 1⟩, ⟨0xFBEA, 0xFBF5, 1⟩, ⟨0xFC37, 0xFC37, 1⟩, ⟨0xFC5B, 0xFC5C, 1⟩,
    ⟨0xFC64, 0xFC65, 1⟩, ⟨0xFC6A, 0xFC6B, 1⟩, ⟨0xFC70, 0xFC71, 1⟩, ⟨0xFC76, 0xFC77, 1⟩,
    ⟨0xFC80, 0xFC80, 1⟩, ⟨0xFC88, 0xFC8A, 2⟩, ⟨0xFC8B, 0xFC8B, 1⟩, ⟨0xFC91, 0xFC92, 1⟩,
    ⟨0xFD0D, 0xFD10, 1⟩, ⟨0xFD29, 0xFD2C, 1⟩, ⟨0xFD3C, 0xFD3D, 1⟩, ⟨0xFDF0, 0xFDF1, 1⟩,
    ⟨0xFDF3, 0xFDF4, 1⟩, ⟨0xFE81, 0xFE88, 1⟩, ⟨0xFE8D, 0xFE8E, 1⟩, ⟨0xFE93, 0xFE94, 1⟩,
    ⟨0xFEA9, 0xFEB0, 1⟩, ⟨0xFEED, 0xFEEE, 1⟩, ⟨0xFEF5, 0xFEFC, 1⟩, ⟨0x10AC5, 0x10AC9, 2⟩,
    ⟨0x10ACA, 0x10ACA, 1⟩, ⟨0x10ACE, 0x10AD2, 1⟩, ⟨0x10ADD, 0x10ADD, 1⟩, ⟨0x10AE1, 0x10AE1, 1⟩,
    ⟨0x10AE4, 0x10AE4, 1⟩, ⟨0x10AEF, 0x10AEF, 1⟩, ⟨0x10B81, 0x10B85, 2⟩, ⟨0x10B84, 0x10B85, 1⟩,
    ⟨0x10B89, 0x10B89, 1⟩, ⟨0x10B8C, 0x10B8E, 2⟩, ⟨0x10B8F, 0x10B91, 2⟩, ⟨0x10BA9, 0x10BAC, 1⟩,
    ⟨0x10D22, 0x10D22, 1⟩, ⟨0x10EC2, 0x10EC2, 1⟩, ⟨0x10F33, 0x10F33, 1⟩, ⟨0x10F54, 0x10F54, 1⟩,
    ⟨0x10F74, 0x10F75, 1⟩, ⟨0x10FB4, 0x10FB6, 1⟩, ⟨0x10FB9, 0x10FBA, 1⟩, ⟨0x10FBD, 0x10FBD, 1⟩,
    ⟨0x10FC2, 0x10FC3, 1⟩, ⟨0x10FC9, 0x10FC9, 1⟩, ⟨0x1EE00, 0x1EE00, 1⟩, ⟨0x1EE03, 0x1EE06, 1⟩,
    ⟨0x1EE13, 0x1EE13, 1⟩, ⟨0x1EE18, 0x1EE18, 1⟩, ⟨0x1EE80, 0x1EE80, 1⟩, ⟨0x1EE83, 0x1EE85, 2⟩,
    ⟨0x1EE86, 0x1EE86, 1⟩, ⟨0x1EE93, 0x1EE93, 1⟩, ⟨0x1EE98, 0x1EE98, 1⟩, ⟨0x1EEA3, 0x1EEA6, 1⟩,
    ⟨0x1EEB3, 0x1EEB3, 1⟩, ⟨0x1EEB8, 0x1EEB8, 1⟩]

/-- The code points of letters that join what is after them. -/
def leftJoiningRuns : List Run :=
  [⟨0xA872, 0xA872, 1⟩, ⟨0x10ACD, 0x10ACD, 1⟩, ⟨0x10AD7, 0x10AD7, 1⟩, ⟨0x10D00, 0x10D00, 1⟩,
    ⟨0x10FCB, 0x10FCB, 1⟩]

/-- The code points that joining passes over, nonspacing marks apart. -/
def passedOverRuns : List Run :=
  [⟨0xCBF, 0xCBF, 1⟩, ⟨0xCC6, 0xCC6, 1⟩, ⟨0x200C, 0x200C, 1⟩, ⟨0x11A07, 0x11A08, 1⟩,
    ⟨0x11C3F, 0x11C3F, 1⟩, ⟨0x1E94B, 0x1E94B, 1⟩]

end FlatMessage.Location.Domain
