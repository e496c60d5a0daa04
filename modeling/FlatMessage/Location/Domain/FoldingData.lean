import FlatMessage.Text.Run

/-!
# Folding data

What becomes of the characters beyond ASCII that a domain name is written with, after
the compatibility mapping for internationalized names.  The characters that stand for
others are of two kinds: what stands for a text with ASCII in it is listed with that
text; of what stands for a text beyond ASCII it only matters that it does.
-/

namespace FlatMessage.Location.Domain

open FlatMessage.Text

/-- The code points that no domain name is written with. -/
def forbiddenRuns : List Run :=
  [⟨0x80, 0xA0, 1⟩, ⟨0xA8, 0xA8, 1⟩, ⟨0xAF, 0xAF, 1⟩, ⟨0xB4, 0xB4, 1⟩, ⟨0xB8, 0xB8, 1⟩,
    ⟨0x2D8, 0x2DD, 1⟩, ⟨0x378, 0x37A, 1⟩, ⟨0x380, 0x385, 1⟩, ⟨0x38B, 0x38D, 2⟩,
    ⟨0x3A2, 0x3A2, 1⟩, ⟨0x530, 0x530, 1⟩, ⟨0x557, 0x558, 1⟩, ⟨0x58B, 0x58C, 1⟩,
    ⟨0x590, 0x590, 1⟩, ⟨0x5C8, 0x5CF, 1⟩, ⟨0x5EB, 0x5EE, 1⟩, ⟨0x5F5, 0x605, 1⟩,
    ⟨0x61C, 0x61C, 1⟩, ⟨0x6DD, 0x6DD, 1⟩, ⟨0x70E, 0x70F, 1⟩, ⟨0x74B, 0x74C, 1⟩,
    ⟨0x7B2, 0x7BF, 1⟩, ⟨0x7FB, 0x7FC, 1⟩, ⟨0x82E, 0x82F, 1⟩, ⟨0x83F, 0x83F, 1⟩,
    ⟨0x85C, 0x85D, 1⟩, ⟨0x85F, 0x85F, 1⟩, ⟨0x86B, 0x86F, 1⟩, ⟨0x890, 0x896, 1⟩,
    ⟨0x8E2, 0x8E2, 1⟩, ⟨0x984, 0x984, 1⟩, ⟨0x98D, 0x98E, 1⟩, ⟨0x991, 0x992, 1⟩,
    ⟨0x9A9, 0x9A9, 1⟩, ⟨0x9B1, 0x9B5, 2⟩, ⟨0x9B4, 0x9B5, 1⟩, ⟨0x9BA, 0x9BB, 1⟩,
    ⟨0x9C5, 0x9C6, 1⟩, ⟨0x9C9, 0x9CA, 1⟩, ⟨0x9CF, 0x9D6, 1⟩, ⟨0x9D8, 0x9DB, 1⟩,
    ⟨0x9DE, 0x9DE, 1⟩, ⟨0x9E4, 0x9E5, 1⟩, ⟨0x9FF, 0xA00, 1⟩, ⟨0xA04, 0xA04, 1⟩,
    ⟨0xA0B, 0xA0E, 1⟩, ⟨0xA11, 0xA12, 1⟩, ⟨0xA29, 0xA29, 1⟩, ⟨0xA31, 0xA31, 1⟩,
    ⟨0xA34, 0xA34, 1⟩, ⟨0xA37, 0xA37, 1⟩, ⟨0xA3A, 0xA3B, 1⟩, ⟨0xA3D, 0xA3D, 1⟩,
    ⟨0xA43, 0xA46, 1⟩, ⟨0xA49, 0xA4A, 1⟩, ⟨0xA4E, 0xA58, 2⟩, ⟨0xA4F, 0xA50, 1⟩,
    ⟨0xA53, 0xA58, 1⟩, ⟨0xA5D, 0xA65, 2⟩, ⟨0xA60, 0xA65, 1⟩, ⟨0xA77, 0xA80, 1⟩,
    ⟨0xA84, 0xA84, 1⟩, ⟨0xA8E, 0xA8E, 1⟩, ⟨0xA92, 0xA92, 1⟩, ⟨0xAA9, 0xAA9, 1⟩,
    ⟨0xAB1, 0xAB1, 1⟩, ⟨0xAB4, 0xAB4, 1⟩, ⟨0xABA, 0xABB, 1⟩, ⟨0xAC6, 0xAC6, 1⟩,
    ⟨0xACA, 0xACA, 1⟩, ⟨0xACE, 0xACF, 1⟩, ⟨0xAD1, 0xADF, 1⟩, ⟨0xAE4, 0xAE5, 1⟩,
    ⟨0xAF2, 0xAF8, 1⟩, ⟨0xB00, 0xB00, 1⟩, ⟨0xB04, 0xB04, 1⟩, ⟨0xB0D, 0xB0E, 1⟩,
    ⟨0xB11, 0xB12, 1⟩, ⟨0xB29, 0xB29, 1⟩, ⟨0xB31, 0xB31, 1⟩, ⟨0xB34, 0xB34, 1⟩,
    ⟨0xB3A, 0xB3B, 1⟩, ⟨0xB45, 0xB46, 1⟩, ⟨0xB49, 0xB4A, 1⟩, ⟨0xB4E, 0xB54, 1⟩,
    ⟨0xB58, 0xB5B, 1⟩, ⟨0xB5E, 0xB5E, 1⟩, ⟨0xB64, 0xB65, 1⟩, ⟨0xB78, 0xB81, 1⟩,
    ⟨0xB84, 0xB84, 1⟩, ⟨0xB8B, 0xB8D, 1⟩, ⟨0xB91, 0xB91, 1⟩, ⟨0xB96, 0xB98, 1⟩,
    ⟨0xB9B, 0xB9D, 2⟩, ⟨0xBA0, 0xBA2, 1⟩, ⟨0xBA5, 0xBA7, 1⟩, ⟨0xBAB, 0xBAD, 1⟩,
    ⟨0xBBA, 0xBBD, 1⟩, ⟨0xBC3, 0xBC5, 1⟩, ⟨0xBC9, 0xBC9, 1⟩, ⟨0xBCE, 0xBCF, 1⟩,
    ⟨0xBD1, 0xBD6, 1⟩, ⟨0xBD8, 0xBE5, 1⟩, ⟨0xBFB, 0xBFF, 1⟩, ⟨0xC0D, 0xC0D, 1⟩,
    ⟨0xC11, 0xC11, 1⟩, ⟨0xC29, 0xC29, 1⟩, ⟨0xC3A, 0xC3B, 1⟩, ⟨0xC45, 0xC45, 1⟩,
    ⟨0xC49, 0xC49, 1⟩, ⟨0xC4E, 0xC54, 1⟩, ⟨0xC57, 0xC57, 1⟩, ⟨0xC5B, 0xC5B, 1⟩,
    ⟨0xC5E, 0xC5F, 1⟩, ⟨0xC64, 0xC65, 1⟩, ⟨0xC70, 0xC76, 1⟩, ⟨0xC8D, 0xC8D, 1⟩,
    ⟨0xC91, 0xC91, 1⟩, ⟨0xCA9, 0xCA9, 1⟩, ⟨0xCB4, 0xCB4, 1⟩, ⟨0xCBA, 0xCBB, 1⟩,
    ⟨0xCC5, 0xCC5, 1⟩, ⟨0xCC9, 0xCC9, 1⟩, ⟨0xCCE, 0xCD4, 1⟩, ⟨0xCD7, 0xCDB, 1⟩,
    ⟨0xCDF, 0xCDF, 1⟩, ⟨0xCE4, 0xCE5, 1⟩, ⟨0xCF0, 0xCF0, 1⟩, ⟨0xCF4, 0xCFF, 1⟩,
    ⟨0xD0D, 0xD0D, 1⟩, ⟨0xD11, 0xD11, 1⟩, ⟨0xD45, 0xD45, 1⟩, ⟨0xD49, 0xD49, 1⟩,
    ⟨0xD50, 0xD53, 1⟩, ⟨0xD64, 0xD65, 1⟩, ⟨0xD80, 0xD80, 1⟩, ⟨0xD84, 0xD84, 1⟩,
    ⟨0xD97, 0xD99, 1⟩, ⟨0xDB2, 0xDB2, 1⟩, ⟨0xDBC, 0xDBE, 2⟩, ⟨0xDBF, 0xDBF, 1⟩,
    ⟨0xDC7, 0xDCD, 2⟩, ⟨0xDC8, 0xDC9, 1⟩, ⟨0xDCC, 0xDCE, 1⟩, ⟨0xDD5, 0xDD7, 2⟩,
    ⟨0xDE0, 0xDE5, 1⟩, ⟨0xDF0, 0xDF1, 1⟩, ⟨0xDF5, 0xE00, 1⟩, ⟨0xE3B, 0xE3E, 1⟩,
    ⟨0xE5C, 0xE80, 1⟩, ⟨0xE83, 0xE85, 2⟩, ⟨0xE8B, 0xE8B, 1⟩, ⟨0xEA4, 0xEA6, 2⟩,
    ⟨0xEBE, 0xEBF, 1⟩, ⟨0xEC5, 0xEC7, 2⟩, ⟨0xECF, 0xECF, 1⟩, ⟨0xEDA, 0xEDB, 1⟩,
    ⟨0xEE0, 0xEFF, 1⟩, ⟨0xF48, 0xF48, 1⟩, ⟨0xF6D, 0xF70, 1⟩, ⟨0xF98, 0xF98, 1⟩,
    ⟨0xFBD, 0xFBD, 1⟩, ⟨0xFCD, 0xFCD, 1⟩, ⟨0xFDB, 0xFFF, 1⟩, ⟨0x10C6, 0x10CE, 2⟩,
    ⟨0x10C9, 0x10CC, 1⟩, ⟨0x10CF, 0x10CF, 1⟩, ⟨0x1249, 0x1249, 1⟩, ⟨0x124E, 0x124F, 1⟩,
    ⟨0x1257, 0x1259, 2⟩, ⟨0x125E, 0x125F, 1⟩, ⟨0x1289, 0x1289, 1⟩, ⟨0x128E, 0x128F, 1⟩,
    ⟨0x12B1, 0x12B1, 1⟩, ⟨0x12B6, 0x12B7, 1⟩, ⟨0x12BF, 0x12C1, 2⟩, ⟨0x12C6, 0x12C7, 1⟩,
    ⟨0x12D7, 0x12D7, 1⟩, ⟨0x1311, 0x1311, 1⟩, ⟨0x1316, 0x1317, 1⟩, ⟨0x135B, 0x135C, 1⟩,
    ⟨0x137D, 0x137F, 1⟩, ⟨0x139A, 0x139F, 1⟩, ⟨0x13F6, 0x13F7, 1⟩, ⟨0x13FE, 0x13FF, 1⟩,
    ⟨0x1680, 0x1680, 1⟩, ⟨0x169D, 0x169F, 1⟩, ⟨0x16F9, 0x16FF, 1⟩, ⟨0x1716, 0x171E, 1⟩,
    ⟨0x1737, 0x173F, 1⟩, ⟨0x1754, 0x175F, 1⟩, ⟨0x176D, 0x176D, 1⟩, ⟨0x1771, 0x1771, 1⟩,
    ⟨0x1774, 0x177F, 1⟩, ⟨0x17DE, 0x17DF, 1⟩, ⟨0x17EA, 0x17EF, 1⟩, ⟨0x17FA, 0x17FF, 1⟩,
    ⟨0x181A, 0x181F, 1⟩, ⟨0x1879, 0x187F, 1⟩, ⟨0x18AB, 0x18AF, 1⟩, ⟨0x18F6, 0x18FF, 1⟩,
    ⟨0x191F, 0x191F, 1⟩, ⟨0x192C, 0x192F, 1⟩, ⟨0x193C, 0x193F, 1⟩, ⟨0x1941, 0x1943, 1⟩,
    ⟨0x196E, 0x196F, 1⟩, ⟨0x1975, 0x197F, 1⟩, ⟨0x19AC, 0x19AF, 1⟩, ⟨0x19CA, 0x19CF, 1⟩,
    ⟨0x19DB, 0x19DD, 1⟩, ⟨0x1A1C, 0x1A1D, 1⟩, ⟨0x1A5F, 0x1A5F, 1⟩, ⟨0x1A7D, 0x1A7E, 1⟩,
    ⟨0x1A8A, 0x1A8F, 1⟩, ⟨0x1A9A, 0x1A9F, 1⟩, ⟨0x1AAE, 0x1AAF, 1⟩, ⟨0x1ADE, 0x1ADF, 1⟩,
    ⟨0x1AEC, 0x1AFF, 1⟩, ⟨0x1B4D, 0x1B4D, 1⟩, ⟨0x1BF4, 0x1BFB, 1⟩, ⟨0x1C38, 0x1C3A, 1⟩,
    ⟨0x1C4A, 0x1C4C, 1⟩, ⟨0x1C8B, 0x1C8F, 1⟩, ⟨0x1CBB, 0x1CBC, 1⟩, ⟨0x1CC8, 0x1CCF, 1⟩,
    ⟨0x1CFB, 0x1CFF, 1⟩, ⟨0x1F16, 0x1F17, 1⟩, ⟨0x1F1E, 0x1F1F, 1⟩, ⟨0x1F46, 0x1F47, 1⟩,
    ⟨0x1F4E, 0x1F4F, 1⟩, ⟨0x1F58, 0x1F5E, 2⟩, ⟨0x1F7E, 0x1F7F, 1⟩, ⟨0x1FB5, 0x1FB5, 1⟩,
    ⟨0x1FBD, 0x1FC1, 2⟩, ⟨0x1FC0, 0x1FC1, 1⟩, ⟨0x1FC5, 0x1FC5, 1⟩, ⟨0x1FCD, 0x1FCF, 1⟩,
    ⟨0x1FD4, 0x1FD5, 1⟩, ⟨0x1FDC, 0x1FDF, 1⟩, ⟨0x1FED, 0x1FEE, 1⟩, ⟨0x1FF0, 0x1FF1, 1⟩,
    ⟨0x1FF5, 0x1FF5, 1⟩, ⟨0x1FFD, 0x200A, 1⟩, ⟨0x200E, 0x200F, 1⟩, ⟨0x2017, 0x2017, 1⟩,
    ⟨0x2024, 0x202E, 2⟩, ⟨0x2025, 0x2026, 1⟩, ⟨0x2029, 0x202F, 1⟩, ⟨0x203E, 0x203E, 1⟩,
    ⟨0x2047, 0x2049, 1⟩, ⟨0x205F, 0x205F, 1⟩, ⟨0x2065, 0x2069, 1⟩, ⟨0x2072, 0x2073, 1⟩,
    ⟨0x208F, 0x208F, 1⟩, ⟨0x209D, 0x209F, 1⟩, ⟨0x20C2, 0x20CF, 1⟩, ⟨0x20F1, 0x2101, 1⟩,
    ⟨0x2105, 0x2106, 1⟩, ⟨0x218C, 0x218F, 1⟩, ⟨0x242A, 0x243F, 1⟩, ⟨0x244B, 0x245F, 1⟩,
    ⟨0x2488, 0x249B, 1⟩, ⟨0x2A74, 0x2A74, 1⟩, ⟨0x2B74, 0x2B75, 1⟩, ⟨0x2CF4, 0x2CF8, 1⟩,
    ⟨0x2D26, 0x2D2E, 2⟩, ⟨0x2D29, 0x2D2C, 1⟩, ⟨0x2D2F, 0x2D2F, 1⟩, ⟨0x2D68, 0x2D6E, 1⟩,
    ⟨0x2D71, 0x2D7E, 1⟩, ⟨0x2D97, 0x2D9F, 1⟩, ⟨0x2DA7, 0x2DA7, 1⟩, ⟨0x2DAF, 0x2DAF, 1⟩,
    ⟨0x2DB7, 0x2DB7, 1⟩, ⟨0x2DBF, 0x2DBF, 1⟩, ⟨0x2DC7, 0x2DC7, 1⟩, ⟨0x2DCF, 0x2DCF, 1⟩,
    ⟨0x2DD7, 0x2DD7, 1⟩, ⟨0x2DDF, 0x2DDF, 1⟩, ⟨0x2E5E, 0x2E7F, 1⟩, ⟨0x2E9A, 0x2E9A, 1⟩,
    ⟨0x2EF4, 0x2EFF, 1⟩, ⟨0x2FD6, 0x3000, 1⟩, ⟨0x3040, 0x3040, 1⟩, ⟨0x3097, 0x3098, 1⟩,
    ⟨0x309B, 0x309C, 1⟩, ⟨0x3100, 0x3104, 1⟩, ⟨0x3130, 0x3130, 1⟩, ⟨0x318F, 0x318F, 1⟩,
    ⟨0x31E6, 0x31EF, 1⟩, ⟨0x321F, 0x321F, 1⟩, ⟨0x33C2, 0x33C2, 1⟩, ⟨0x33C7, 0x33C7, 1⟩,
    ⟨0x33D8, 0x33D8, 1⟩, ⟨0xA48D, 0xA48F, 1⟩, ⟨0xA4C7, 0xA4CF, 1⟩, ⟨0xA62C, 0xA63F, 1⟩,
    ⟨0xA6F8, 0xA6FF, 1⟩, ⟨0xA7DD, 0xA7F0, 1⟩, ⟨0xA82D, 0xA82F, 1⟩, ⟨0xA83A, 0xA83F, 1⟩,
    ⟨0xA878, 0xA87F, 1⟩, ⟨0xA8C6, 0xA8CD, 1⟩, ⟨0xA8DA, 0xA8DF, 1⟩, ⟨0xA954, 0xA95E, 1⟩,
    ⟨0xA97D, 0xA97F, 1⟩, ⟨0xA9CE, 0xA9CE, 1⟩, ⟨0xA9DA, 0xA9DD, 1⟩, ⟨0xA9FF, 0xA9FF, 1⟩,
    ⟨0xAA37, 0xAA3F, 1⟩, ⟨0xAA4E, 0xAA4F, 1⟩, ⟨0xAA5A, 0xAA5B, 1⟩, ⟨0xAAC3, 0xAADA, 1⟩,
    ⟨0xAAF7, 0xAB00, 1⟩, ⟨0xAB07, 0xAB08, 1⟩, ⟨0xAB0F, 0xAB10, 1⟩, ⟨0xAB17, 0xAB1F, 1⟩,
    ⟨0xAB27, 0xAB27, 1⟩, ⟨0xAB2F, 0xAB2F, 1⟩, ⟨0xAB6C, 0xAB6F, 1⟩, ⟨0xABEE, 0xABEF, 1⟩,
    ⟨0xABFA, 0xABFF, 1⟩, ⟨0xD7A4, 0xD7AF, 1⟩, ⟨0xD7C7, 0xD7CA, 1⟩, ⟨0xD7FC, 0xF8FF, 1⟩,
    ⟨0xFA6E, 0xFA6F, 1⟩, ⟨0xFADA, 0xFAFF, 1⟩, ⟨0xFB07, 0xFB12, 1⟩, ⟨0xFB18, 0xFB1C, 1⟩,
    ⟨0xFB37, 0xFB37, 1⟩, ⟨0xFB3D, 0xFB3F, 2⟩, ⟨0xFB42, 0xFB42, 1⟩, ⟨0xFB45, 0xFB45, 1⟩,
    ⟨0xFC5E, 0xFC63, 1⟩, ⟨0xFDD0, 0xFDEF, 1⟩, ⟨0xFDFA, 0xFDFB, 1⟩, ⟨0xFE12, 0xFE13, 1⟩,
    ⟨0xFE16, 0xFE16, 1⟩, ⟨0xFE19, 0xFE1F, 1⟩, ⟨0xFE30, 0xFE30, 1⟩, ⟨0xFE47, 0xFE4C, 1⟩,
    ⟨0xFE52, 0xFE53, 1⟩, ⟨0xFE55, 0xFE56, 1⟩, ⟨0xFE5F, 0xFE5F, 1⟩, ⟨0xFE67, 0xFE68, 1⟩,
    ⟨0xFE6A, 0xFE7E, 2⟩, ⟨0xFE6B, 0xFE70, 1⟩, ⟨0xFE75, 0xFE76, 1⟩, ⟨0xFEFD, 0xFEFE, 1⟩,
    ⟨0xFF00, 0xFF00, 1⟩, ⟨0xFF03, 0xFF05, 2⟩, ⟨0xFF0F, 0xFF0F, 1⟩, ⟨0xFF1A, 0xFF1A, 1⟩,
    ⟨0xFF1F, 0xFF20, 1⟩, ⟨0xFF3B, 0xFF3E, 1⟩, ⟨0xFF5C, 0xFF5C, 1⟩, ⟨0xFFBF, 0xFFC1, 1⟩,
    ⟨0xFFC8, 0xFFC9, 1⟩, ⟨0xFFD0, 0xFFD1, 1⟩, ⟨0xFFD8, 0xFFD9, 1⟩, ⟨0xFFDD, 0xFFDF, 1⟩,
    ⟨0xFFE3, 0xFFE3, 1⟩, ⟨0xFFE7, 0xFFE7, 1⟩, ⟨0xFFEF, 0xFFFF, 1⟩, ⟨0x1000C, 0x1000C, 1⟩,
    ⟨0x10027, 0x10027, 1⟩, ⟨0x1003B, 0x1003B, 1⟩, ⟨0x1003E, 0x1003E, 1⟩, ⟨0x1004E, 0x1004F, 1⟩,
    ⟨0x1005E, 0x1007F, 1⟩, ⟨0x100FB, 0x100FF, 1⟩, ⟨0x10103, 0x10106, 1⟩, ⟨0x10134, 0x10136, 1⟩,
    ⟨0x1018F, 0x1018F, 1⟩, ⟨0x1019D, 0x101CF, 2⟩, ⟨0x1019E, 0x1019F, 1⟩, ⟨0x101A2, 0x101CF, 1⟩,
    ⟨0x101FE, 0x1027F, 1⟩, ⟨0x1029D, 0x1029F, 1⟩, ⟨0x102D1, 0x102DF, 1⟩, ⟨0x102FC, 0x102FF, 1⟩,
    ⟨0x10324, 0x1032C, 1⟩, ⟨0x1034B, 0x1034F, 1⟩, ⟨0x1037B, 0x1037F, 1⟩, ⟨0x1039E, 0x1039E, 1⟩,
    ⟨0x103C4, 0x103C7, 1⟩, ⟨0x103D6, 0x103FF, 1⟩, ⟨0x1049E, 0x1049F, 1⟩, ⟨0x104AA, 0x104AF, 1⟩,
    ⟨0x104D4, 0x104D7, 1⟩, ⟨0x104FC, 0x104FF, 1⟩, ⟨0x10528, 0x1052F, 1⟩, ⟨0x10564, 0x1056E, 1⟩,
    ⟨0x1057B, 0x1057B, 1⟩, ⟨0x1058B, 0x1058B, 1⟩, ⟨0x10593, 0x10593, 1⟩, ⟨0x10596, 0x10596, 1⟩,
    ⟨0x105A2, 0x105A2, 1⟩, ⟨0x105B2, 0x105B2, 1⟩, ⟨0x105BA, 0x105BA, 1⟩, ⟨0x105BD, 0x105BF, 1⟩,
    ⟨0x105F4, 0x105FF, 1⟩, ⟨0x10737, 0x1073F, 1⟩, ⟨0x10756, 0x1075F, 1⟩, ⟨0x10768, 0x1077F, 1⟩,
    ⟨0x10786, 0x10786, 1⟩, ⟨0x107B1, 0x107B1, 1⟩, ⟨0x107BB, 0x107FF, 1⟩, ⟨0x10806, 0x10807, 1⟩,
    ⟨0x10809, 0x10809, 1⟩, ⟨0x10836, 0x10836, 1⟩, ⟨0x10839, 0x1083B, 1⟩, ⟨0x1083D, 0x1083E, 1⟩,
    ⟨0x10856, 0x10856, 1⟩, ⟨0x1089F, 0x108A6, 1⟩, ⟨0x108B0, 0x108DF, 1⟩, ⟨0x108F3, 0x108F3, 1⟩,
    ⟨0x108F6, 0x108FA, 1⟩, ⟨0x1091C, 0x1091E, 1⟩, ⟨0x1093A, 0x1093E, 1⟩, ⟨0x1095A, 0x1097F, 1⟩,
    ⟨0x109B8, 0x109BB, 1⟩, ⟨0x109D0, 0x109D1, 1⟩, ⟨0x10A04, 0x10A04, 1⟩, ⟨0x10A07, 0x10A0B, 1⟩,
    ⟨0x10A14, 0x10A14, 1⟩, ⟨0x10A18, 0x10A18, 1⟩, ⟨0x10A36, 0x10A37, 1⟩, ⟨0x10A3B, 0x10A3E, 1⟩,
    ⟨0x10A49, 0x10A4F, 1⟩, ⟨0x10A59, 0x10A5F, 1⟩, ⟨0x10AA0, 0x10ABF, 1⟩, ⟨0x10AE7, 0x10AEA, 1⟩,
    ⟨0x10AF7, 0x10AFF, 1⟩, ⟨0x10B36, 0x10B38, 1⟩, ⟨0x10B56, 0x10B57, 1⟩, ⟨0x10B73, 0x10B77, 1⟩,
    ⟨0x10B92, 0x10B98, 1⟩, ⟨0x10B9D, 0x10BA8, 1⟩, ⟨0x10BB0, 0x10BFF, 1⟩, ⟨0x10C49, 0x10C7F, 1⟩,
    ⟨0x10CB3, 0x10CBF, 1⟩, ⟨0x10CF3, 0x10CF9, 1⟩, ⟨0x10D28, 0x10D2F, 1⟩, ⟨0x10D3A, 0x10D3F, 1⟩,
    ⟨0x10D66, 0x10D68, 1⟩, ⟨0x10D86, 0x10D8D, 1⟩, ⟨0x10D90, 0x10E5F, 1⟩, ⟨0x10E7F, 0x10E7F, 1⟩,
    ⟨0x10EAA, 0x10EAA, 1⟩, ⟨0x10EAE, 0x10EAF, 1⟩, ⟨0x10EB2, 0x10EC1, 1⟩, ⟨0x10EC8, 0x10ECF, 1⟩,
    ⟨0x10ED9, 0x10EF9, 1⟩, ⟨0x10F28, 0x10F2F, 1⟩, ⟨0x10F5A, 0x10F6F, 1⟩, ⟨0x10F8A, 0x10FAF, 1⟩,
    ⟨0x10FCC, 0x10FDF, 1⟩, ⟨0x10FF7, 0x10FFF, 1⟩, ⟨0x1104E, 0x11051, 1⟩, ⟨0x11076, 0x1107E, 1⟩,
    ⟨0x110BD, 0x110BD, 1⟩, ⟨0x110C3, 0x110CF, 1⟩, ⟨0x110E9, 0x110EF, 1⟩, ⟨0x110FA, 0x110FF, 1⟩,
    ⟨0x11135, 0x11135, 1⟩, ⟨0x11148, 0x1114F, 1⟩, ⟨0x11177, 0x1117F, 1⟩, ⟨0x111E0, 0x111E0, 1⟩,
    ⟨0x111F5, 0x111FF, 1⟩, ⟨0x11212, 0x11212, 1⟩, ⟨0x11242, 0x1127F, 1⟩, ⟨0x11287, 0x11289, 2⟩,
    ⟨0x1128E, 0x1128E, 1⟩, ⟨0x1129E, 0x1129E, 1⟩, ⟨0x112AA, 0x112AF, 1⟩, ⟨0x112EB, 0x112EF, 1⟩,
    ⟨0x112FA, 0x112FF, 1⟩, ⟨0x11304, 0x11304, 1⟩, ⟨0x1130D, 0x1130E, 1⟩, ⟨0x11311, 0x11312, 1⟩,
    ⟨0x11329, 0x11329, 1⟩, ⟨0x11331, 0x11331, 1⟩, ⟨0x11334, 0x11334, 1⟩, ⟨0x1133A, 0x1133A, 1⟩,
    ⟨0x11345, 0x11346, 1⟩, ⟨0x11349, 0x1134A, 1⟩, ⟨0x1134E, 0x1134F, 1⟩, ⟨0x11351, 0x11356, 1⟩,
    ⟨0x11358, 0x1135C, 1⟩, ⟨0x11364, 0x11365, 1⟩, ⟨0x1136D, 0x1136F, 1⟩, ⟨0x11375, 0x1137F, 1⟩,
    ⟨0x1138A, 0x1138C, 2⟩, ⟨0x1138D, 0x1138F, 2⟩, ⟨0x113B6, 0x113B6, 1⟩, ⟨0x113C1, 0x113C3, 2⟩,
    ⟨0x113C4, 0x113C6, 2⟩, ⟨0x113CB, 0x113CB, 1⟩, ⟨0x113D6, 0x113D6, 1⟩, ⟨0x113D9, 0x113E0, 1⟩,
    ⟨0x113E3, 0x113FF, 1⟩, ⟨0x1145C, 0x1145C, 1⟩, ⟨0x11462, 0x1147F, 1⟩, ⟨0x114C8, 0x114CF, 1⟩,
    ⟨0x114DA, 0x1157F, 1⟩, ⟨0x115B6, 0x115B7, 1⟩, ⟨0x115DE, 0x115FF, 1⟩, ⟨0x11645, 0x1164F, 1⟩,
    ⟨0x1165A, 0x1165F, 1⟩, ⟨0x1166D, 0x1167F, 1⟩, ⟨0x116BA, 0x116BF, 1⟩, ⟨0x116CA, 0x116CF, 1⟩,
    ⟨0x116E4, 0x116FF, 1⟩, ⟨0x1171B, 0x1171C, 1⟩, ⟨0x1172C, 0x1172F, 1⟩, ⟨0x11747, 0x117FF, 1⟩,
    ⟨0x1183C, 0x1189F, 1⟩, ⟨0x118F3, 0x118FE, 1⟩, ⟨0x11907, 0x11908, 1⟩, ⟨0x1190A, 0x1190B, 1⟩,
    ⟨0x11914, 0x11914, 1⟩, ⟨0x11917, 0x11917, 1⟩, ⟨0x11936, 0x11936, 1⟩, ⟨0x11939, 0x1193A, 1⟩,
    ⟨0x11947, 0x1194F, 1⟩, ⟨0x1195A, 0x1199F, 1⟩, ⟨0x119A8, 0x119A9, 1⟩, ⟨0x119D8, 0x119D9, 1⟩,
    ⟨0x119E5, 0x119FF, 1⟩, ⟨0x11A48, 0x11A4F, 1⟩, ⟨0x11AA3, 0x11AAF, 1⟩, ⟨0x11AF9, 0x11AFF, 1⟩,
    ⟨0x11B0A, 0x11B5F, 1⟩, ⟨0x11B68, 0x11BBF, 1⟩, ⟨0x11BE2, 0x11BEF, 1⟩, ⟨0x11BFA, 0x11BFF, 1⟩,
    ⟨0x11C09, 0x11C09, 1⟩, ⟨0x11C37, 0x11C37, 1⟩, ⟨0x11C46, 0x11C4F, 1⟩, ⟨0x11C6D, 0x11C6F, 1⟩,
    ⟨0x11C90, 0x11C91, 1⟩, ⟨0x11CA8, 0x11CA8, 1⟩, ⟨0x11CB7, 0x11CFF, 1⟩, ⟨0x11D07, 0x11D07, 1⟩,
    ⟨0x11D0A, 0x11D0A, 1⟩, ⟨0x11D37, 0x11D39, 1⟩, ⟨0x11D3B, 0x11D3B, 1⟩, ⟨0x11D3E, 0x11D3E, 1⟩,
    ⟨0x11D48, 0x11D4F, 1⟩, ⟨0x11D5A, 0x11D5F, 1⟩, ⟨0x11D66, 0x11D66, 1⟩, ⟨0x11D69, 0x11D69, 1⟩,
    ⟨0x11D8F, 0x11D8F, 1⟩, ⟨0x11D92, 0x11D92, 1⟩, ⟨0x11D99, 0x11D9F, 1⟩, ⟨0x11DAA, 0x11DAF, 1⟩,
    ⟨0x11DDC, 0x11DDF, 1⟩, ⟨0x11DEA, 0x11EDF, 1⟩, ⟨0x11EF9, 0x11EFF, 1⟩, ⟨0x11F11, 0x11F11, 1⟩,
    ⟨0x11F3B, 0x11F3D, 1⟩, ⟨0x11F5B, 0x11FAF, 1⟩, ⟨0x11FB1, 0x11FBF, 1⟩, ⟨0x11FF2, 0x11FFE, 1⟩,
    ⟨0x1239A, 0x123FF, 1⟩, ⟨0x1246F, 0x1246F, 1⟩, ⟨0x12475, 0x1247F, 1⟩, ⟨0x12544, 0x12F8F, 1⟩,
    ⟨0x12FF3, 0x12FFF, 1⟩, ⟨0x13430, 0x1343F, 1⟩, ⟨0x13456, 0x1345F, 1⟩, ⟨0x143FB, 0x143FF, 1⟩,
    ⟨0x14647, 0x160FF, 1⟩, ⟨0x1613A, 0x167FF, 1⟩, ⟨0x16A39, 0x16A3F, 1⟩, ⟨0x16A5F, 0x16A5F, 1⟩,
    ⟨0x16A6A, 0x16A6D, 1⟩, ⟨0x16ABF, 0x16ABF, 1⟩, ⟨0x16ACA, 0x16ACF, 1⟩, ⟨0x16AEE, 0x16AEF, 1⟩,
    ⟨0x16AF6, 0x16AFF, 1⟩, ⟨0x16B46, 0x16B4F, 1⟩, ⟨0x16B5A, 0x16B5A, 1⟩, ⟨0x16B62, 0x16B62, 1⟩,
    ⟨0x16B78, 0x16B7C, 1⟩, ⟨0x16B90, 0x16D3F, 1⟩, ⟨0x16D7A, 0x16E3F, 1⟩, ⟨0x16E9B, 0x16E9F, 1⟩,
    ⟨0x16EB9, 0x16EBA, 1⟩, ⟨0x16ED4, 0x16EFF, 1⟩, ⟨0x16F4B, 0x16F4E, 1⟩, ⟨0x16F88, 0x16F8E, 1⟩,
    ⟨0x16FA0, 0x16FDF, 1⟩, ⟨0x16FE5, 0x16FEF, 1⟩, ⟨0x16FF7, 0x16FFF, 1⟩, ⟨0x18CD6, 0x18CFE, 1⟩,
    ⟨0x18D1F, 0x18D7F, 1⟩, ⟨0x18DF3, 0x1AFEF, 1⟩, ⟨0x1AFF4, 0x1AFF4, 1⟩, ⟨0x1AFFC, 0x1AFFC, 1⟩,
    ⟨0x1AFFF, 0x1AFFF, 1⟩, ⟨0x1B123, 0x1B14F, 2⟩, ⟨0x1B124, 0x1B131, 1⟩, ⟨0x1B134, 0x1B14F, 1⟩,
    ⟨0x1B153, 0x1B154, 1⟩, ⟨0x1B156, 0x1B163, 1⟩, ⟨0x1B168, 0x1B16F, 1⟩, ⟨0x1B2FC, 0x1BBFF, 1⟩,
    ⟨0x1BC6B, 0x1BC6F, 1⟩, ⟨0x1BC7D, 0x1BC7F, 1⟩, ⟨0x1BC89, 0x1BC8F, 1⟩, ⟨0x1BC9A, 0x1BC9B, 1⟩,
    ⟨0x1BCA4, 0x1CBFF, 1⟩, ⟨0x1CCFD, 0x1CCFF, 1⟩, ⟨0x1CEB4, 0x1CEB9, 1⟩, ⟨0x1CED1, 0x1CEDF, 1⟩,
    ⟨0x1CEF1, 0x1CEFF, 1⟩, ⟨0x1CF2E, 0x1CF2F, 1⟩, ⟨0x1CF47, 0x1CF4F, 1⟩, ⟨0x1CFC4, 0x1CFFF, 1⟩,
    ⟨0x1D0F6, 0x1D0FF, 1⟩, ⟨0x1D127, 0x1D128, 1⟩, ⟨0x1D1EB, 0x1D1FF, 1⟩, ⟨0x1D246, 0x1D2BF, 1⟩,
    ⟨0x1D2D4, 0x1D2DF, 1⟩, ⟨0x1D2F4, 0x1D2FF, 1⟩, ⟨0x1D357, 0x1D35F, 1⟩, ⟨0x1D379, 0x1D3FF, 1⟩,
    ⟨0x1D455, 0x1D455, 1⟩, ⟨0x1D49D, 0x1D49D, 1⟩, ⟨0x1D4A0, 0x1D4A1, 1⟩, ⟨0x1D4A3, 0x1D4A4, 1⟩,
    ⟨0x1D4A7, 0x1D4A8, 1⟩, ⟨0x1D4AD, 0x1D4AD, 1⟩, ⟨0x1D4BA, 0x1D4BC, 2⟩, ⟨0x1D4C4, 0x1D4C4, 1⟩,
    ⟨0x1D506, 0x1D506, 1⟩, ⟨0x1D50B, 0x1D50C, 1⟩, ⟨0x1D515, 0x1D515, 1⟩, ⟨0x1D51D, 0x1D51D, 1⟩,
    ⟨0x1D53A, 0x1D53A, 1⟩, ⟨0x1D53F, 0x1D53F, 1⟩, ⟨0x1D545, 0x1D549, 2⟩, ⟨0x1D548, 0x1D549, 1⟩,
    ⟨0x1D551, 0x1D551, 1⟩, ⟨0x1D6A6, 0x1D6A7, 1⟩, ⟨0x1D7CC, 0x1D7CD, 1⟩, ⟨0x1DA8C, 0x1DA9A, 1⟩,
    ⟨0x1DAA0, 0x1DAA0, 1⟩, ⟨0x1DAB0, 0x1DEFF, 1⟩, ⟨0x1DF1F, 0x1DF24, 1⟩, ⟨0x1DF2B, 0x1DFFF, 1⟩,
    ⟨0x1E007, 0x1E007, 1⟩, ⟨0x1E019, 0x1E01A, 1⟩, ⟨0x1E022, 0x1E022, 1⟩, ⟨0x1E025, 0x1E025, 1⟩,
    ⟨0x1E02B, 0x1E02F, 1⟩, ⟨0x1E06E, 0x1E0FE, 2⟩, ⟨0x1E06F, 0x1E08E, 1⟩, ⟨0x1E091, 0x1E0FF, 1⟩,
    ⟨0x1E12D, 0x1E12F, 1⟩, ⟨0x1E13E, 0x1E13F, 1⟩, ⟨0x1E14A, 0x1E14D, 1⟩, ⟨0x1E150, 0x1E28F, 1⟩,
    ⟨0x1E2AF, 0x1E2BF, 1⟩, ⟨0x1E2FA, 0x1E4CE, 2⟩, ⟨0x1E2FB, 0x1E2FE, 1⟩, ⟨0x1E301, 0x1E4CF, 1⟩,
    ⟨0x1E4FA, 0x1E5CF, 1⟩, ⟨0x1E5FB, 0x1E5FE, 1⟩, ⟨0x1E600, 0x1E6BF, 1⟩, ⟨0x1E6DF, 0x1E6DF, 1⟩,
    ⟨0x1E6F6, 0x1E6FD, 1⟩, ⟨0x1E700, 0x1E7DF, 1⟩, ⟨0x1E7E7, 0x1E7E7, 1⟩, ⟨0x1E7EC, 0x1E7EC, 1⟩,
    ⟨0x1E7EF, 0x1E7EF, 1⟩, ⟨0x1E7FF, 0x1E7FF, 1⟩, ⟨0x1E8C5, 0x1E8C6, 1⟩, ⟨0x1E8D7, 0x1E8FF, 1⟩,
    ⟨0x1E94C, 0x1E94F, 1⟩, ⟨0x1E95A, 0x1E95D, 1⟩, ⟨0x1E960, 0x1EC70, 1⟩, ⟨0x1ECB5, 0x1ED00, 1⟩,
    ⟨0x1ED3E, 0x1EDFF, 1⟩, ⟨0x1EE04, 0x1EE04, 1⟩, ⟨0x1EE20, 0x1EE20, 1⟩, ⟨0x1EE23, 0x1EE25, 2⟩,
    ⟨0x1EE26, 0x1EE28, 2⟩, ⟨0x1EE33, 0x1EE33, 1⟩, ⟨0x1EE38, 0x1EE40, 2⟩, ⟨0x1EE3D, 0x1EE45, 2⟩,
    ⟨0x1EE44, 0x1EE4C, 2⟩, ⟨0x1EE50, 0x1EE50, 1⟩, ⟨0x1EE53, 0x1EE55, 2⟩, ⟨0x1EE56, 0x1EE60, 2⟩,
    ⟨0x1EE63, 0x1EE65, 2⟩, ⟨0x1EE66, 0x1EE66, 1⟩, ⟨0x1EE6B, 0x1EE6B, 1⟩, ⟨0x1EE73, 0x1EE73, 1⟩,
    ⟨0x1EE78, 0x1EE78, 1⟩, ⟨0x1EE7D, 0x1EE7F, 2⟩, ⟨0x1EE8A, 0x1EE8A, 1⟩, ⟨0x1EE9C, 0x1EEA0, 1⟩,
    ⟨0x1EEA4, 0x1EEA4, 1⟩, ⟨0x1EEAA, 0x1EEAA, 1⟩, ⟨0x1EEBC, 0x1EEEF, 1⟩, ⟨0x1EEF2, 0x1EFFF, 1⟩,
    ⟨0x1F02C, 0x1F02F, 1⟩, ⟨0x1F094, 0x1F09F, 1⟩, ⟨0x1F0AF, 0x1F0B0, 1⟩, ⟨0x1F0C0, 0x1F0C0, 1⟩,
    ⟨0x1F0D0, 0x1F0D0, 1⟩, ⟨0x1F0F6, 0x1F100, 1⟩, ⟨0x1F1AE, 0x1F1E5, 1⟩, ⟨0x1F203, 0x1F20F, 1⟩,
    ⟨0x1F23C, 0x1F23F, 1⟩, ⟨0x1F249, 0x1F24F, 1⟩, ⟨0x1F252, 0x1F25F, 1⟩, ⟨0x1F266, 0x1F2FF, 1⟩,
    ⟨0x1F6D9, 0x1F6DB, 1⟩, ⟨0x1F6ED, 0x1F6EF, 1⟩, ⟨0x1F6FD, 0x1F6FF, 1⟩, ⟨0x1F7DA, 0x1F7DF, 1⟩,
    ⟨0x1F7EC, 0x1F7EF, 1⟩, ⟨0x1F7F1, 0x1F7FF, 1⟩, ⟨0x1F80C, 0x1F80F, 1⟩, ⟨0x1F848, 0x1F84F, 1⟩,
    ⟨0x1F85A, 0x1F85F, 1⟩, ⟨0x1F888, 0x1F88F, 1⟩, ⟨0x1F8AE, 0x1F8AF, 1⟩, ⟨0x1F8BC, 0x1F8BF, 1⟩,
    ⟨0x1F8C2, 0x1F8CF, 1⟩, ⟨0x1F8D9, 0x1F8FF, 1⟩, ⟨0x1FA58, 0x1FA5F, 1⟩, ⟨0x1FA6E, 0x1FA6F, 1⟩,
    ⟨0x1FA7D, 0x1FA7F, 1⟩, ⟨0x1FA8B, 0x1FA8D, 1⟩, ⟨0x1FAC7, 0x1FACB, 2⟩, ⟨0x1FACA, 0x1FACC, 1⟩,
    ⟨0x1FADD, 0x1FADE, 1⟩, ⟨0x1FAEB, 0x1FAEE, 1⟩, ⟨0x1FAF9, 0x1FAFF, 1⟩, ⟨0x1FB93, 0x1FB93, 1⟩,
    ⟨0x1FBFB, 0x1FFFF, 1⟩, ⟨0x2A6E0, 0x2A6FF, 1⟩, ⟨0x2B81E, 0x2B81F, 1⟩, ⟨0x2CEAE, 0x2CEAF, 1⟩,
    ⟨0x2EBE1, 0x2EBEF, 1⟩, ⟨0x2EE5E, 0x2F7FF, 1⟩, ⟨0x2FA1E, 0x2FFFF, 1⟩, ⟨0x3134B, 0x3134F, 1⟩,
    ⟨0x3347A, 0xE00FF, 1⟩, ⟨0xE01F0, 0x10FFFF, 1⟩]

/-- The code points that do not count in a domain name. -/
def ignoredRuns : List Run :=
  [⟨0xAD, 0xAD, 1⟩, ⟨0x34F, 0x34F, 1⟩, ⟨0x115F, 0x1160, 1⟩, ⟨0x17B4, 0x17B5, 1⟩,
    ⟨0x180B, 0x180F, 1⟩, ⟨0x200B, 0x200B, 1⟩, ⟨0x2060, 0x206F, 1⟩, ⟨0x3164, 0x3164, 1⟩,
    ⟨0xFE00, 0xFE0F, 1⟩, ⟨0xFEFF, 0xFEFF, 1⟩, ⟨0xFFA0, 0xFFA0, 1⟩, ⟨0x1BCA0, 0x1BCA3, 1⟩,
    ⟨0x1D173, 0x1D17A, 1⟩, ⟨0xE0100, 0xE01EF, 1⟩]

/-- The code points that stand for a text beyond ASCII. -/
def variantRuns : List Run :=
  [⟨0xB5, 0xB5, 1⟩, ⟨0xC0, 0xD6, 1⟩, ⟨0xD8, 0xDE, 1⟩, ⟨0x100, 0x136, 2⟩, ⟨0x139, 0x147, 2⟩,
    ⟨0x14A, 0x178, 2⟩, ⟨0x179, 0x181, 2⟩, ⟨0x182, 0x186, 2⟩, ⟨0x187, 0x18B, 2⟩,
    ⟨0x18A, 0x18B, 1⟩, ⟨0x18E, 0x191, 1⟩, ⟨0x193, 0x194, 1⟩, ⟨0x196, 0x198, 1⟩,
    ⟨0x19C, 0x19D, 1⟩, ⟨0x19F, 0x1A0, 1⟩, ⟨0x1A2, 0x1A6, 2⟩, ⟨0x1A7, 0x1A9, 2⟩,
    ⟨0x1AC, 0x1AE, 2⟩, ⟨0x1AF, 0x1B7, 2⟩, ⟨0x1B2, 0x1B3, 1⟩, ⟨0x1B8, 0x1B8, 1⟩,
    ⟨0x1BC, 0x1BC, 1⟩, ⟨0x1CD, 0x1DB, 2⟩, ⟨0x1DE, 0x1EE, 2⟩, ⟨0x1F4, 0x232, 2⟩,
    ⟨0x1F7, 0x1F8, 1⟩, ⟨0x23A, 0x23B, 1⟩, ⟨0x23D, 0x23E, 1⟩, ⟨0x241, 0x245, 2⟩,
    ⟨0x244, 0x24E, 2⟩, ⟨0x2B1, 0x2B6, 1⟩, ⟨0x2E0, 0x2E4, 1⟩, ⟨0x340, 0x341, 1⟩,
    ⟨0x343, 0x345, 1⟩, ⟨0x370, 0x376, 2⟩, ⟨0x37F, 0x3AB, 2⟩, ⟨0x386, 0x38F, 1⟩,
    ⟨0x392, 0x3AB, 1⟩, ⟨0x3CF, 0x3D6, 1⟩, ⟨0x3D8, 0x3F4, 2⟩, ⟨0x3F1, 0x3F2, 1⟩,
    ⟨0x3F5, 0x3F9, 2⟩, ⟨0x3FA, 0x3FA, 1⟩, ⟨0x3FD, 0x42F, 1⟩, ⟨0x460, 0x480, 2⟩,
    ⟨0x48A, 0x4C0, 2⟩, ⟨0x4C1, 0x4CD, 2⟩, ⟨0x4D0, 0x556, 2⟩, ⟨0x531, 0x556, 1⟩,
    ⟨0x587, 0x587, 1⟩, ⟨0x675, 0x678, 1⟩, ⟨0x958, 0x95F, 1⟩, ⟨0x9DC, 0x9DF, 1⟩,
    ⟨0xA33, 0xA33, 1⟩, ⟨0xA36, 0xA36, 1⟩, ⟨0xA59, 0xA5B, 1⟩, ⟨0xA5E, 0xA5E, 1⟩,
    ⟨0xB5C, 0xB5D, 1⟩, ⟨0xE33, 0xE33, 1⟩, ⟨0xEB3, 0xEB3, 1⟩, ⟨0xEDC, 0xEDD, 1⟩,
    ⟨0xF0C, 0xF0C, 1⟩, ⟨0xF43, 0xF43, 1⟩, ⟨0xF4D, 0xF4D, 1⟩, ⟨0xF52, 0xF52, 1⟩,
    ⟨0xF57, 0xF57, 1⟩, ⟨0xF5C, 0xF5C, 1⟩, ⟨0xF69, 0xF69, 1⟩, ⟨0xF73, 0xF79, 2⟩,
    ⟨0xF76, 0xF79, 1⟩, ⟨0xF81, 0xF81, 1⟩, ⟨0xF93, 0xF93, 1⟩, ⟨0xF9D, 0xF9D, 1⟩,
    ⟨0xFA2, 0xFA2, 1⟩, ⟨0xFA7, 0xFA7, 1⟩, ⟨0xFAC, 0xFAC, 1⟩, ⟨0xFB9, 0xFB9, 1⟩,
    ⟨0x10A0, 0x10CD, 1⟩, ⟨0x10FC, 0x10FC, 1⟩, ⟨0x13F8, 0x13FD, 1⟩, ⟨0x1C80, 0x1C89, 1⟩,
    ⟨0x1C90, 0x1CBF, 1⟩, ⟨0x1D2D, 0x1D2D, 1⟩, ⟨0x1D32, 0x1D4C, 2⟩, ⟨0x1D3D, 0x1D69, 2⟩,
    ⟨0x1D54, 0x1D6A, 1⟩, ⟨0x1D78, 0x1D78, 1⟩, ⟨0x1D9B, 0x1DBF, 1⟩, ⟨0x1E00, 0x1E94, 2⟩,
    ⟨0x1E9B, 0x1E9B, 1⟩, ⟨0x1E9E, 0x1EFE, 2⟩, ⟨0x1F08, 0x1F0F, 1⟩, ⟨0x1F18, 0x1F1D, 1⟩,
    ⟨0x1F28, 0x1F2F, 1⟩, ⟨0x1F38, 0x1F3F, 1⟩, ⟨0x1F48, 0x1F4D, 1⟩, ⟨0x1F59, 0x1F5F, 1⟩,
    ⟨0x1F68, 0x1F6F, 1⟩, ⟨0x1F71, 0x1FAF, 2⟩, ⟨0x1F80, 0x1FAF, 1⟩, ⟨0x1FB2, 0x1FB4, 1⟩,
    ⟨0x1FB7, 0x1FC4, 1⟩, ⟨0x1FC7, 0x1FCC, 1⟩, ⟨0x1FD3, 0x1FD3, 1⟩, ⟨0x1FD8, 0x1FDB, 1⟩,
    ⟨0x1FE3, 0x1FE3, 1⟩, ⟨0x1FE8, 0x1FF4, 1⟩, ⟨0x1FF7, 0x1FFC, 1⟩, ⟨0x2011, 0x2011, 1⟩,
    ⟨0x2033, 0x2034, 1⟩, ⟨0x2036, 0x2037, 1⟩, ⟨0x2057, 0x2057, 1⟩, ⟨0x207B, 0x2094, 1⟩,
    ⟨0x2107, 0x210F, 2⟩, ⟨0x2126, 0x2126, 1⟩, ⟨0x212B, 0x213F, 2⟩, ⟨0x2132, 0x2138, 1⟩,
    ⟨0x213C, 0x2140, 1⟩, ⟨0x2183, 0x2183, 1⟩, ⟨0x222C, 0x222D, 1⟩, ⟨0x222F, 0x2230, 1⟩,
    ⟨0x2329, 0x232A, 1⟩, ⟨0x2A0C, 0x2A0C, 1⟩, ⟨0x2ADC, 0x2ADC, 1⟩, ⟨0x2C00, 0x2C2F, 1⟩,
    ⟨0x2C60, 0x2C64, 2⟩, ⟨0x2C63, 0x2C64, 1⟩, ⟨0x2C67, 0x2C6F, 2⟩, ⟨0x2C6E, 0x2C72, 2⟩,
    ⟨0x2C75, 0x2C75, 1⟩, ⟨0x2C7E, 0x2CE2, 2⟩, ⟨0x2C7F, 0x2C80, 1⟩, ⟨0x2CEB, 0x2CED, 2⟩,
    ⟨0x2CF2, 0x2CF2, 1⟩, ⟨0x2D6F, 0x2D6F, 1⟩, ⟨0x2E9F, 0x2E9F, 1⟩, ⟨0x2EF3, 0x2FD5, 1⟩,
    ⟨0x3036, 0x303A, 2⟩, ⟨0x3039, 0x303A, 1⟩, ⟨0x309F, 0x309F, 1⟩, ⟨0x30FF, 0x30FF, 1⟩,
    ⟨0x3131, 0x318E, 1⟩, ⟨0x3192, 0x319F, 1⟩, ⟨0x3244, 0x3247, 1⟩, ⟨0x3260, 0x337E, 2⟩,
    ⟨0x3261, 0x327E, 1⟩, ⟨0x3281, 0x337F, 1⟩, ⟨0xA640, 0xA66C, 2⟩, ⟨0xA680, 0xA69C, 2⟩,
    ⟨0xA69D, 0xA69D, 1⟩, ⟨0xA722, 0xA72E, 2⟩, ⟨0xA732, 0xA770, 2⟩, ⟨0xA779, 0xA77D, 2⟩,
    ⟨0xA77E, 0xA786, 2⟩, ⟨0xA78B, 0xA78D, 2⟩, ⟨0xA790, 0xA792, 2⟩, ⟨0xA796, 0xA7C6, 2⟩,
    ⟨0xA7AB, 0xA7AE, 1⟩, ⟨0xA7B1, 0xA7B4, 1⟩, ⟨0xA7C5, 0xA7CB, 2⟩, ⟨0xA7CC, 0xA7DC, 2⟩,
    ⟨0xA7F5, 0xA7F5, 1⟩, ⟨0xA7F8, 0xA7F9, 1⟩, ⟨0xAB5C, 0xAB5F, 1⟩, ⟨0xAB69, 0xAB69, 1⟩,
    ⟨0xAB70, 0xABBF, 1⟩, ⟨0xF900, 0xFA0D, 1⟩, ⟨0xFA10, 0xFA12, 2⟩, ⟨0xFA15, 0xFA1E, 1⟩,
    ⟨0xFA20, 0xFA22, 2⟩, ⟨0xFA25, 0xFA26, 1⟩, ⟨0xFA2A, 0xFB1D, 1⟩, ⟨0xFB1F, 0xFBB1, 1⟩,
    ⟨0xFBD3, 0xFD3D, 1⟩, ⟨0xFD50, 0xFD8F, 1⟩, ⟨0xFD92, 0xFDC7, 1⟩, ⟨0xFDF0, 0xFDFC, 1⟩,
    ⟨0xFE11, 0xFE18, 1⟩, ⟨0xFE31, 0xFE44, 1⟩, ⟨0xFE51, 0xFE71, 1⟩, ⟨0xFE77, 0xFFEE, 1⟩,
    ⟨0x10400, 0x10427, 1⟩, ⟨0x104B0, 0x104D3, 1⟩, ⟨0x10570, 0x10595, 1⟩, ⟨0x10781, 0x107BA, 1⟩,
    ⟨0x10C80, 0x10CB2, 1⟩, ⟨0x10D50, 0x10D65, 1⟩, ⟨0x118A0, 0x118BF, 1⟩, ⟨0x16E40, 0x16E5F, 1⟩,
    ⟨0x16EA0, 0x16EB8, 1⟩, ⟨0x1D15E, 0x1D164, 1⟩, ⟨0x1D1BB, 0x1D1C0, 1⟩, ⟨0x1D6A4, 0x1D7CB, 1⟩,
    ⟨0x1E030, 0x1E06D, 1⟩, ⟨0x1E900, 0x1E921, 1⟩, ⟨0x1EE00, 0x1EEBB, 1⟩, ⟨0x1F200, 0x1F251, 1⟩,
    ⟨0x2F800, 0x2FA1D, 1⟩]

/-- The runs of code points that stand for one ASCII character. -/
def foldShifts : List Shift :=
  [⟨⟨0xAA, 0xAA, 1⟩, -73⟩, ⟨⟨0xB2, 0xB3, 1⟩, -128⟩, ⟨⟨0xB9, 0xB9, 1⟩, -136⟩,
    ⟨⟨0xBA, 0xBA, 1⟩, -75⟩, ⟨⟨0x17F, 0x17F, 1⟩, -268⟩, ⟨⟨0x2B0, 0x2B2, 2⟩, -584⟩,
    ⟨⟨0x2B3, 0x2B3, 1⟩, -577⟩, ⟨⟨0x2B7, 0x2B7, 1⟩, -576⟩, ⟨⟨0x2B8, 0x2B8, 1⟩, -575⟩,
    ⟨⟨0x2E1, 0x2E1, 1⟩, -629⟩, ⟨⟨0x2E2, 0x2E2, 1⟩, -623⟩, ⟨⟨0x2E3, 0x2E3, 1⟩, -619⟩,
    ⟨⟨0x37E, 0x37E, 1⟩, -835⟩, ⟨⟨0x1D2C, 0x1D2C, 1⟩, -7371⟩, ⟨⟨0x1D2E, 0x1D30, 2⟩, -7372⟩,
    ⟨⟨0x1D31, 0x1D39, 2⟩, -7372⟩, ⟨⟨0x1D34, 0x1D3A, 2⟩, -7372⟩, ⟨⟨0x1D3C, 0x1D3C, 1⟩, -7373⟩,
    ⟨⟨0x1D3E, 0x1D3E, 1⟩, -7374⟩, ⟨⟨0x1D3F, 0x1D3F, 1⟩, -7373⟩, ⟨⟨0x1D40, 0x1D41, 1⟩, -7372⟩,
    ⟨⟨0x1D42, 0x1D42, 1⟩, -7371⟩, ⟨⟨0x1D43, 0x1D43, 1⟩, -7394⟩, ⟨⟨0x1D47, 0x1D47, 1⟩, -7397⟩,
    ⟨⟨0x1D48, 0x1D49, 1⟩, -7396⟩, ⟨⟨0x1D4D, 0x1D4D, 1⟩, -7398⟩, ⟨⟨0x1D4F, 0x1D4F, 1⟩, -7396⟩,
    ⟨⟨0x1D50, 0x1D52, 2⟩, -7395⟩, ⟨⟨0x1D56, 0x1D56, 1⟩, -7398⟩, ⟨⟨0x1D57, 0x1D58, 1⟩, -7395⟩,
    ⟨⟨0x1D5B, 0x1D5B, 1⟩, -7397⟩, ⟨⟨0x1D62, 0x1D62, 1⟩, -7417⟩, ⟨⟨0x1D63, 0x1D63, 1⟩, -7409⟩,
    ⟨⟨0x1D64, 0x1D65, 1⟩, -7407⟩, ⟨⟨0x1D9C, 0x1D9C, 1⟩, -7481⟩, ⟨⟨0x1DA0, 0x1DA0, 1⟩, -7482⟩,
    ⟨⟨0x1DBB, 0x1DBB, 1⟩, -7489⟩, ⟨⟨0x1FEF, 0x1FEF, 1⟩, -8079⟩, ⟨⟨0x2070, 0x2070, 1⟩, -8256⟩,
    ⟨⟨0x2071, 0x2071, 1⟩, -8200⟩, ⟨⟨0x2074, 0x2079, 1⟩, -8256⟩, ⟨⟨0x207A, 0x207A, 1⟩, -8271⟩,
    ⟨⟨0x207C, 0x207C, 1⟩, -8255⟩, ⟨⟨0x207D, 0x207E, 1⟩, -8277⟩, ⟨⟨0x207F, 0x207F, 1⟩, -8209⟩,
    ⟨⟨0x2080, 0x2089, 1⟩, -8272⟩, ⟨⟨0x208A, 0x208A, 1⟩, -8287⟩, ⟨⟨0x208C, 0x208C, 1⟩, -8271⟩,
    ⟨⟨0x208D, 0x208E, 1⟩, -8293⟩, ⟨⟨0x2090, 0x2090, 1⟩, -8239⟩, ⟨⟨0x2091, 0x2091, 1⟩, -8236⟩,
    ⟨⟨0x2092, 0x2092, 1⟩, -8227⟩, ⟨⟨0x2093, 0x2093, 1⟩, -8219⟩, ⟨⟨0x2095, 0x2095, 1⟩, -8237⟩,
    ⟨⟨0x2096, 0x2099, 1⟩, -8235⟩, ⟨⟨0x209A, 0x209A, 1⟩, -8234⟩, ⟨⟨0x209B, 0x209C, 1⟩, -8232⟩,
    ⟨⟨0x2102, 0x2102, 1⟩, -8351⟩, ⟨⟨0x210A, 0x210B, 1⟩, -8355⟩, ⟨⟨0x210C, 0x210C, 1⟩, -8356⟩,
    ⟨⟨0x210D, 0x210D, 1⟩, -8357⟩, ⟨⟨0x210E, 0x210E, 1⟩, -8358⟩, ⟨⟨0x2110, 0x2110, 1⟩, -8359⟩,
    ⟨⟨0x2111, 0x2111, 1⟩, -8360⟩, ⟨⟨0x2112, 0x2112, 1⟩, -8358⟩, ⟨⟨0x2113, 0x2115, 2⟩, -8359⟩,
    ⟨⟨0x2119, 0x211B, 1⟩, -8361⟩, ⟨⟨0x211C, 0x211C, 1⟩, -8362⟩, ⟨⟨0x211D, 0x211D, 1⟩, -8363⟩,
    ⟨⟨0x2124, 0x2124, 1⟩, -8362⟩, ⟨⟨0x2128, 0x2128, 1⟩, -8366⟩, ⟨⟨0x212A, 0x212A, 1⟩, -8383⟩,
    ⟨⟨0x212C, 0x212D, 1⟩, -8394⟩, ⟨⟨0x212F, 0x212F, 1⟩, -8394⟩, ⟨⟨0x2130, 0x2131, 1⟩, -8395⟩,
    ⟨⟨0x2133, 0x2133, 1⟩, -8390⟩, ⟨⟨0x2134, 0x2134, 1⟩, -8389⟩, ⟨⟨0x2139, 0x2139, 1⟩, -8400⟩,
    ⟨⟨0x2145, 0x2145, 1⟩, -8417⟩, ⟨⟨0x2146, 0x2147, 1⟩, -8418⟩, ⟨⟨0x2148, 0x2149, 1⟩, -8415⟩,
    ⟨⟨0x2160, 0x2160, 1⟩, -8439⟩, ⟨⟨0x2164, 0x2164, 1⟩, -8430⟩, ⟨⟨0x2169, 0x2169, 1⟩, -8433⟩,
    ⟨⟨0x216C, 0x216C, 1⟩, -8448⟩, ⟨⟨0x216D, 0x216E, 1⟩, -8458⟩, ⟨⟨0x216F, 0x216F, 1⟩, -8450⟩,
    ⟨⟨0x2170, 0x2170, 1⟩, -8455⟩, ⟨⟨0x2174, 0x2174, 1⟩, -8446⟩, ⟨⟨0x2179, 0x2179, 1⟩, -8449⟩,
    ⟨⟨0x217C, 0x217C, 1⟩, -8464⟩, ⟨⟨0x217D, 0x217E, 1⟩, -8474⟩, ⟨⟨0x217F, 0x217F, 1⟩, -8466⟩,
    ⟨⟨0x2460, 0x2468, 1⟩, -9263⟩, ⟨⟨0x24B6, 0x24CF, 1⟩, -9301⟩, ⟨⟨0x24D0, 0x24E9, 1⟩, -9327⟩,
    ⟨⟨0x24EA, 0x24EA, 1⟩, -9402⟩, ⟨⟨0x2C7C, 0x2C7C, 1⟩, -11282⟩, ⟨⟨0x2C7D, 0x2C7D, 1⟩, -11271⟩,
    ⟨⟨0x3002, 0x3002, 1⟩, -12244⟩, ⟨⟨0xA7F1, 0xA7F1, 1⟩, -42878⟩, ⟨⟨0xA7F2, 0xA7F2, 1⟩, -42895⟩,
    ⟨⟨0xA7F3, 0xA7F3, 1⟩, -42893⟩, ⟨⟨0xA7F4, 0xA7F4, 1⟩, -42883⟩, ⟨⟨0xFB29, 0xFB29, 1⟩, -64254⟩,
    ⟨⟨0xFE10, 0xFE10, 1⟩, -64996⟩, ⟨⟨0xFE14, 0xFE14, 1⟩, -64985⟩, ⟨⟨0xFE15, 0xFE15, 1⟩, -65012⟩,
    ⟨⟨0xFE33, 0xFE33, 1⟩, -64980⟩, ⟨⟨0xFE34, 0xFE34, 1⟩, -64981⟩, ⟨⟨0xFE35, 0xFE36, 1⟩, -65037⟩,
    ⟨⟨0xFE37, 0xFE37, 1⟩, -64956⟩, ⟨⟨0xFE38, 0xFE38, 1⟩, -64955⟩, ⟨⟨0xFE4D, 0xFE4D, 1⟩, -65006⟩,
    ⟨⟨0xFE4E, 0xFE4E, 1⟩, -65007⟩, ⟨⟨0xFE4F, 0xFE4F, 1⟩, -65008⟩, ⟨⟨0xFE50, 0xFE50, 1⟩, -65060⟩,
    ⟨⟨0xFE54, 0xFE54, 1⟩, -65049⟩, ⟨⟨0xFE57, 0xFE57, 1⟩, -65078⟩, ⟨⟨0xFE59, 0xFE5A, 1⟩, -65073⟩,
    ⟨⟨0xFE5B, 0xFE5B, 1⟩, -64992⟩, ⟨⟨0xFE5C, 0xFE5C, 1⟩, -64991⟩, ⟨⟨0xFE60, 0xFE60, 1⟩, -65082⟩,
    ⟨⟨0xFE61, 0xFE62, 1⟩, -65079⟩, ⟨⟨0xFE63, 0xFE63, 1⟩, -65078⟩, ⟨⟨0xFE64, 0xFE64, 1⟩, -65064⟩,
    ⟨⟨0xFE65, 0xFE65, 1⟩, -65063⟩, ⟨⟨0xFE66, 0xFE66, 1⟩, -65065⟩, ⟨⟨0xFE69, 0xFE69, 1⟩, -65093⟩,
    ⟨⟨0xFF01, 0xFF02, 1⟩, -65248⟩, ⟨⟨0xFF04, 0xFF18, 2⟩, -65248⟩, ⟨⟨0xFF07, 0xFF0D, 2⟩, -65248⟩,
    ⟨⟨0xFF11, 0xFF1D, 2⟩, -65248⟩, ⟨⟨0xFF1C, 0xFF1E, 2⟩, -65248⟩, ⟨⟨0xFF21, 0xFF3A, 1⟩, -65216⟩,
    ⟨⟨0xFF3F, 0xFF5B, 1⟩, -65248⟩, ⟨⟨0xFF5D, 0xFF5E, 1⟩, -65248⟩, ⟨⟨0xFF61, 0xFF61, 1⟩, -65331⟩,
    ⟨⟨0x107A5, 0x107A5, 1⟩, -67380⟩, ⟨⟨0x1CCD6, 0x1CCEF, 1⟩, -117877⟩,
    ⟨⟨0x1CCF0, 0x1CCF9, 1⟩, -117952⟩, ⟨⟨0x1D400, 0x1D419, 1⟩, -119711⟩,
    ⟨⟨0x1D41A, 0x1D433, 1⟩, -119737⟩, ⟨⟨0x1D434, 0x1D44D, 1⟩, -119763⟩,
    ⟨⟨0x1D44E, 0x1D466, 2⟩, -119789⟩, ⟨⟨0x1D44F, 0x1D453, 2⟩, -119789⟩,
    ⟨⟨0x1D457, 0x1D467, 2⟩, -119789⟩, ⟨⟨0x1D468, 0x1D481, 1⟩, -119815⟩,
    ⟨⟨0x1D482, 0x1D49B, 1⟩, -119841⟩, ⟨⟨0x1D49C, 0x1D49E, 2⟩, -119867⟩,
    ⟨⟨0x1D49F, 0x1D49F, 1⟩, -119867⟩, ⟨⟨0x1D4A2, 0x1D4A2, 1⟩, -119867⟩,
    ⟨⟨0x1D4A5, 0x1D4A6, 1⟩, -119867⟩, ⟨⟨0x1D4A9, 0x1D4AC, 1⟩, -119867⟩,
    ⟨⟨0x1D4AE, 0x1D4B5, 1⟩, -119867⟩, ⟨⟨0x1D4B6, 0x1D4B9, 1⟩, -119893⟩,
    ⟨⟨0x1D4BB, 0x1D4CF, 2⟩, -119893⟩, ⟨⟨0x1D4BE, 0x1D4C2, 2⟩, -119893⟩,
    ⟨⟨0x1D4C6, 0x1D4CE, 2⟩, -119893⟩, ⟨⟨0x1D4D0, 0x1D4E9, 1⟩, -119919⟩,
    ⟨⟨0x1D4EA, 0x1D503, 1⟩, -119945⟩, ⟨⟨0x1D504, 0x1D505, 1⟩, -119971⟩,
    ⟨⟨0x1D507, 0x1D50A, 1⟩, -119971⟩, ⟨⟨0x1D50D, 0x1D514, 1⟩, -119971⟩,
    ⟨⟨0x1D516, 0x1D51C, 1⟩, -119971⟩, ⟨⟨0x1D51E, 0x1D537, 1⟩, -119997⟩,
    ⟨⟨0x1D538, 0x1D539, 1⟩, -120023⟩, ⟨⟨0x1D53B, 0x1D53E, 1⟩, -120023⟩,
    ⟨⟨0x1D540, 0x1D544, 1⟩, -120023⟩, ⟨⟨0x1D546, 0x1D546, 1⟩, -120023⟩,
    ⟨⟨0x1D54A, 0x1D550, 1⟩, -120023⟩, ⟨⟨0x1D552, 0x1D56B, 1⟩, -120049⟩,
    ⟨⟨0x1D56C, 0x1D585, 1⟩, -120075⟩, ⟨⟨0x1D586, 0x1D59F, 1⟩, -120101⟩,
    ⟨⟨0x1D5A0, 0x1D5B9, 1⟩, -120127⟩, ⟨⟨0x1D5BA, 0x1D5D3, 1⟩, -120153⟩,
    ⟨⟨0x1D5D4, 0x1D5ED, 1⟩, -120179⟩, ⟨⟨0x1D5EE, 0x1D607, 1⟩, -120205⟩,
    ⟨⟨0x1D608, 0x1D621, 1⟩, -120231⟩, ⟨⟨0x1D622, 0x1D63B, 1⟩, -120257⟩,
    ⟨⟨0x1D63C, 0x1D655, 1⟩, -120283⟩, ⟨⟨0x1D656, 0x1D66F, 1⟩, -120309⟩,
    ⟨⟨0x1D670, 0x1D689, 1⟩, -120335⟩, ⟨⟨0x1D68A, 0x1D6A3, 1⟩, -120361⟩,
    ⟨⟨0x1D7CE, 0x1D7D7, 1⟩, -120734⟩, ⟨⟨0x1D7D8, 0x1D7E1, 1⟩, -120744⟩,
    ⟨⟨0x1D7E2, 0x1D7EB, 1⟩, -120754⟩, ⟨⟨0x1D7EC, 0x1D7F5, 1⟩, -120764⟩,
    ⟨⟨0x1D7F6, 0x1D7FF, 1⟩, -120774⟩, ⟨⟨0x1F12B, 0x1F12B, 1⟩, -127176⟩,
    ⟨⟨0x1F12C, 0x1F12C, 1⟩, -127162⟩, ⟨⟨0x1F130, 0x1F149, 1⟩, -127183⟩,
    ⟨⟨0x1FBF0, 0x1FBF9, 1⟩, -129984⟩]

/-- The code points that stand for several characters with ASCII among them. -/
def foldSequences : List (Nat × List Nat) :=
  [(0xBC, [0x31, 0x2044, 0x34]), (0xBD, [0x31, 0x2044, 0x32]), (0xBE, [0x33, 0x2044, 0x34]),
    (0x130, [0x69, 0x307]), (0x132, [0x69, 0x6A]), (0x133, [0x69, 0x6A]), (0x13F, [0x6C, 0xB7]),
    (0x140, [0x6C, 0xB7]), (0x149, [0x2BC, 0x6E]), (0x1C4, [0x64, 0x17E]),
    (0x1C5, [0x64, 0x17E]), (0x1C6, [0x64, 0x17E]), (0x1C7, [0x6C, 0x6A]),
    (0x1C8, [0x6C, 0x6A]), (0x1C9, [0x6C, 0x6A]), (0x1CA, [0x6E, 0x6A]), (0x1CB, [0x6E, 0x6A]),
    (0x1CC, [0x6E, 0x6A]), (0x1F1, [0x64, 0x7A]), (0x1F2, [0x64, 0x7A]), (0x1F3, [0x64, 0x7A]),
    (0x1E9A, [0x61, 0x2BE]), (0x203C, [0x21, 0x21]), (0x20A8, [0x72, 0x73]),
    (0x2103, [0xB0, 0x63]), (0x2109, [0xB0, 0x66]), (0x2116, [0x6E, 0x6F]),
    (0x2120, [0x73, 0x6D]), (0x2121, [0x74, 0x65, 0x6C]), (0x2122, [0x74, 0x6D]),
    (0x213B, [0x66, 0x61, 0x78]), (0x2150, [0x31, 0x2044, 0x37]),
    (0x2151, [0x31, 0x2044, 0x39]), (0x2152, [0x31, 0x2044, 0x31, 0x30]),
    (0x2153, [0x31, 0x2044, 0x33]), (0x2154, [0x32, 0x2044, 0x33]),
    (0x2155, [0x31, 0x2044, 0x35]), (0x2156, [0x32, 0x2044, 0x35]),
    (0x2157, [0x33, 0x2044, 0x35]), (0x2158, [0x34, 0x2044, 0x35]),
    (0x2159, [0x31, 0x2044, 0x36]), (0x215A, [0x35, 0x2044, 0x36]),
    (0x215B, [0x31, 0x2044, 0x38]), (0x215C, [0x33, 0x2044, 0x38]),
    (0x215D, [0x35, 0x2044, 0x38]), (0x215E, [0x37, 0x2044, 0x38]), (0x215F, [0x31, 0x2044]),
    (0x2161, [0x69, 0x69]), (0x2162, [0x69, 0x69, 0x69]), (0x2163, [0x69, 0x76]),
    (0x2165, [0x76, 0x69]), (0x2166, [0x76, 0x69, 0x69]), (0x2167, [0x76, 0x69, 0x69, 0x69]),
    (0x2168, [0x69, 0x78]), (0x216A, [0x78, 0x69]), (0x216B, [0x78, 0x69, 0x69]),
    (0x2171, [0x69, 0x69]), (0x2172, [0x69, 0x69, 0x69]), (0x2173, [0x69, 0x76]),
    (0x2175, [0x76, 0x69]), (0x2176, [0x76, 0x69, 0x69]), (0x2177, [0x76, 0x69, 0x69, 0x69]),
    (0x2178, [0x69, 0x78]), (0x217A, [0x78, 0x69]), (0x217B, [0x78, 0x69, 0x69]),
    (0x2189, [0x30, 0x2044, 0x33]), (0x2469, [0x31, 0x30]), (0x246A, [0x31, 0x31]),
    (0x246B, [0x31, 0x32]), (0x246C, [0x31, 0x33]), (0x246D, [0x31, 0x34]),
    (0x246E, [0x31, 0x35]), (0x246F, [0x31, 0x36]), (0x2470, [0x31, 0x37]),
    (0x2471, [0x31, 0x38]), (0x2472, [0x31, 0x39]), (0x2473, [0x32, 0x30]),
    (0x2474, [0x28, 0x31, 0x29]), (0x2475, [0x28, 0x32, 0x29]), (0x2476, [0x28, 0x33, 0x29]),
    (0x2477, [0x28, 0x34, 0x29]), (0x2478, [0x28, 0x35, 0x29]), (0x2479, [0x28, 0x36, 0x29]),
    (0x247A, [0x28, 0x37, 0x29]), (0x247B, [0x28, 0x38, 0x29]), (0x247C, [0x28, 0x39, 0x29]),
    (0x247D, [0x28, 0x31, 0x30, 0x29]), (0x247E, [0x28, 0x31, 0x31, 0x29]),
    (0x247F, [0x28, 0x31, 0x32, 0x29]), (0x2480, [0x28, 0x31, 0x33, 0x29]),
    (0x2481, [0x28, 0x31, 0x34, 0x29]), (0x2482, [0x28, 0x31, 0x35, 0x29]),
    (0x2483, [0x28, 0x31, 0x36, 0x29]), (0x2484, [0x28, 0x31, 0x37, 0x29]),
    (0x2485, [0x28, 0x31, 0x38, 0x29]), (0x2486, [0x28, 0x31, 0x39, 0x29]),
    (0x2487, [0x28, 0x32, 0x30, 0x29]), (0x249C, [0x28, 0x61, 0x29]),
    (0x249D, [0x28, 0x62, 0x29]), (0x249E, [0x28, 0x63, 0x29]), (0x249F, [0x28, 0x64, 0x29]),
    (0x24A0, [0x28, 0x65, 0x29]), (0x24A1, [0x28, 0x66, 0x29]), (0x24A2, [0x28, 0x67, 0x29]),
    (0x24A3, [0x28, 0x68, 0x29]), (0x24A4, [0x28, 0x69, 0x29]), (0x24A5, [0x28, 0x6A, 0x29]),
    (0x24A6, [0x28, 0x6B, 0x29]), (0x24A7, [0x28, 0x6C, 0x29]), (0x24A8, [0x28, 0x6D, 0x29]),
    (0x24A9, [0x28, 0x6E, 0x29]), (0x24AA, [0x28, 0x6F, 0x29]), (0x24AB, [0x28, 0x70, 0x29]),
    (0x24AC, [0x28, 0x71, 0x29]), (0x24AD, [0x28, 0x72, 0x29]), (0x24AE, [0x28, 0x73, 0x29]),
    (0x24AF, [0x28, 0x74, 0x29]), (0x24B0, [0x28, 0x75, 0x29]), (0x24B1, [0x28, 0x76, 0x29]),
    (0x24B2, [0x28, 0x77, 0x29]), (0x24B3, [0x28, 0x78, 0x29]), (0x24B4, [0x28, 0x79, 0x29]),
    (0x24B5, [0x28, 0x7A, 0x29]), (0x2A75, [0x3D, 0x3D]), (0x2A76, [0x3D, 0x3D, 0x3D]),
    (0x3200, [0x28, 0x1100, 0x29]), (0x3201, [0x28, 0x1102, 0x29]),
    (0x3202, [0x28, 0x1103, 0x29]), (0x3203, [0x28, 0x1105, 0x29]),
    (0x3204, [0x28, 0x1106, 0x29]), (0x3205, [0x28, 0x1107, 0x29]),
    (0x3206, [0x28, 0x1109, 0x29]), (0x3207, [0x28, 0x110B, 0x29]),
    (0x3208, [0x28, 0x110C, 0x29]), (0x3209, [0x28, 0x110E, 0x29]),
    (0x320A, [0x28, 0x110F, 0x29]), (0x320B, [0x28, 0x1110, 0x29]),
    (0x320C, [0x28, 0x1111, 0x29]), (0x320D, [0x28, 0x1112, 0x29]),
    (0x320E, [0x28, 0xAC00, 0x29]), (0x320F, [0x28, 0xB098, 0x29]),
    (0x3210, [0x28, 0xB2E4, 0x29]), (0x3211, [0x28, 0xB77C, 0x29]),
    (0x3212, [0x28, 0xB9C8, 0x29]), (0x3213, [0x28, 0xBC14, 0x29]),
    (0x3214, [0x28, 0xC0AC, 0x29]), (0x3215, [0x28, 0xC544, 0x29]),
    (0x3216, [0x28, 0xC790, 0x29]), (0x3217, [0x28, 0xCC28, 0x29]),
    (0x3218, [0x28, 0xCE74, 0x29]), (0x3219, [0x28, 0xD0C0, 0x29]),
    (0x321A, [0x28, 0xD30C, 0x29]), (0x321B, [0x28, 0xD558, 0x29]),
    (0x321C, [0x28, 0xC8FC, 0x29]), (0x321D, [0x28, 0xC624, 0xC804, 0x29]),
    (0x321E, [0x28, 0xC624, 0xD6C4, 0x29]), (0x3220, [0x28, 0x4E00, 0x29]),
    (0x3221, [0x28, 0x4E8C, 0x29]), (0x3222, [0x28, 0x4E09, 0x29]),
    (0x3223, [0x28, 0x56DB, 0x29]), (0x3224, [0x28, 0x4E94, 0x29]),
    (0x3225, [0x28, 0x516D, 0x29]), (0x3226, [0x28, 0x4E03, 0x29]),
    (0x3227, [0x28, 0x516B, 0x29]), (0x3228, [0x28, 0x4E5D, 0x29]),
    (0x3229, [0x28, 0x5341, 0x29]), (0x322A, [0x28, 0x6708, 0x29]),
    (0x322B, [0x28, 0x706B, 0x29]), (0x322C, [0x28, 0x6C34, 0x29]),
    (0x322D, [0x28, 0x6728, 0x29]), (0x322E, [0x28, 0x91D1, 0x29]),
    (0x322F, [0x28, 0x571F, 0x29]), (0x3230, [0x28, 0x65E5, 0x29]),
    (0x3231, [0x28, 0x682A, 0x29]), (0x3232, [0x28, 0x6709, 0x29]),
    (0x3233, [0x28, 0x793E, 0x29]), (0x3234, [0x28, 0x540D, 0x29]),
    (0x3235, [0x28, 0x7279, 0x29]), (0x3236, [0x28, 0x8CA1, 0x29]),
    (0x3237, [0x28, 0x795D, 0x29]), (0x3238, [0x28, 0x52B4, 0x29]),
    (0x3239, [0x28, 0x4EE3, 0x29]), (0x323A, [0x28, 0x547C, 0x29]),
    (0x323B, [0x28, 0x5B66, 0x29]), (0x323C, [0x28, 0x76E3, 0x29]),
    (0x323D, [0x28, 0x4F01, 0x29]), (0x323E, [0x28, 0x8CC7, 0x29]),
    (0x323F, [0x28, 0x5354, 0x29]), (0x3240, [0x28, 0x796D, 0x29]),
    (0x3241, [0x28, 0x4F11, 0x29]), (0x3242, [0x28, 0x81EA, 0x29]),
    (0x3243, [0x28, 0x81F3, 0x29]), (0x3250, [0x70, 0x74, 0x65]), (0x3251, [0x32, 0x31]),
    (0x3252, [0x32, 0x32]), (0x3253, [0x32, 0x33]), (0x3254, [0x32, 0x34]),
    (0x3255, [0x32, 0x35]), (0x3256, [0x32, 0x36]), (0x3257, [0x32, 0x37]),
    (0x3258, [0x32, 0x38]), (0x3259, [0x32, 0x39]), (0x325A, [0x33, 0x30]),
    (0x325B, [0x33, 0x31]), (0x325C, [0x33, 0x32]), (0x325D, [0x33, 0x33]),
    (0x325E, [0x33, 0x34]), (0x325F, [0x33, 0x35]), (0x32B1, [0x33, 0x36]),
    (0x32B2, [0x33, 0x37]), (0x32B3, [0x33, 0x38]), (0x32B4, [0x33, 0x39]),
    (0x32B5, [0x34, 0x30]), (0x32B6, [0x34, 0x31]), (0x32B7, [0x34, 0x32]),
    (0x32B8, [0x34, 0x33]), (0x32B9, [0x34, 0x34]), (0x32BA, [0x34, 0x35]),
    (0x32BB, [0x34, 0x36]), (0x32BC, [0x34, 0x37]), (0x32BD, [0x34, 0x38]),
    (0x32BE, [0x34, 0x39]), (0x32BF, [0x35, 0x30]), (0x32C0, [0x31, 0x6708]),
    (0x32C1, [0x32, 0x6708]), (0x32C2, [0x33, 0x6708]), (0x32C3, [0x34, 0x6708]),
    (0x32C4, [0x35, 0x6708]), (0x32C5, [0x36, 0x6708]), (0x32C6, [0x37, 0x6708]),
    (0x32C7, [0x38, 0x6708]), (0x32C8, [0x39, 0x6708]), (0x32C9, [0x31, 0x30, 0x6708]),
    (0x32CA, [0x31, 0x31, 0x6708]), (0x32CB, [0x31, 0x32, 0x6708]), (0x32CC, [0x68, 0x67]),
    (0x32CD, [0x65, 0x72, 0x67]), (0x32CE, [0x65, 0x76]), (0x32CF, [0x6C, 0x74, 0x64]),
    (0x3358, [0x30, 0x70B9]), (0x3359, [0x31, 0x70B9]), (0x335A, [0x32, 0x70B9]),
    (0x335B, [0x33, 0x70B9]), (0x335C, [0x34, 0x70B9]), (0x335D, [0x35, 0x70B9]),
    (0x335E, [0x36, 0x70B9]), (0x335F, [0x37, 0x70B9]), (0x3360, [0x38, 0x70B9]),
    (0x3361, [0x39, 0x70B9]), (0x3362, [0x31, 0x30, 0x70B9]), (0x3363, [0x31, 0x31, 0x70B9]),
    (0x3364, [0x31, 0x32, 0x70B9]), (0x3365, [0x31, 0x33, 0x70B9]),
    (0x3366, [0x31, 0x34, 0x70B9]), (0x3367, [0x31, 0x35, 0x70B9]),
    (0x3368, [0x31, 0x36, 0x70B9]), (0x3369, [0x31, 0x37, 0x70B9]),
    (0x336A, [0x31, 0x38, 0x70B9]), (0x336B, [0x31, 0x39, 0x70B9]),
    (0x336C, [0x32, 0x30, 0x70B9]), (0x336D, [0x32, 0x31, 0x70B9]),
    (0x336E, [0x32, 0x32, 0x70B9]), (0x336F, [0x32, 0x33, 0x70B9]),
    (0x3370, [0x32, 0x34, 0x70B9]), (0x3371, [0x68, 0x70, 0x61]), (0x3372, [0x64, 0x61]),
    (0x3373, [0x61, 0x75]), (0x3374, [0x62, 0x61, 0x72]), (0x3375, [0x6F, 0x76]),
    (0x3376, [0x70, 0x63]), (0x3377, [0x64, 0x6D]), (0x3378, [0x64, 0x6D, 0x32]),
    (0x3379, [0x64, 0x6D, 0x33]), (0x337A, [0x69, 0x75]), (0x3380, [0x70, 0x61]),
    (0x3381, [0x6E, 0x61]), (0x3382, [0x3BC, 0x61]), (0x3383, [0x6D, 0x61]),
    (0x3384, [0x6B, 0x61]), (0x3385, [0x6B, 0x62]), (0x3386, [0x6D, 0x62]),
    (0x3387, [0x67, 0x62]), (0x3388, [0x63, 0x61, 0x6C]), (0x3389, [0x6B, 0x63, 0x61, 0x6C]),
    (0x338A, [0x70, 0x66]), (0x338B, [0x6E, 0x66]), (0x338C, [0x3BC, 0x66]),
    (0x338D, [0x3BC, 0x67]), (0x338E, [0x6D, 0x67]), (0x338F, [0x6B, 0x67]),
    (0x3390, [0x68, 0x7A]), (0x3391, [0x6B, 0x68, 0x7A]), (0x3392, [0x6D, 0x68, 0x7A]),
    (0x3393, [0x67, 0x68, 0x7A]), (0x3394, [0x74, 0x68, 0x7A]), (0x3395, [0x3BC, 0x6C]),
    (0x3396, [0x6D, 0x6C]), (0x3397, [0x64, 0x6C]), (0x3398, [0x6B, 0x6C]),
    (0x3399, [0x66, 0x6D]), (0x339A, [0x6E, 0x6D]), (0x339B, [0x3BC, 0x6D]),
    (0x339C, [0x6D, 0x6D]), (0x339D, [0x63, 0x6D]), (0x339E, [0x6B, 0x6D]),
    (0x339F, [0x6D, 0x6D, 0x32]), (0x33A0, [0x63, 0x6D, 0x32]), (0x33A1, [0x6D, 0x32]),
    (0x33A2, [0x6B, 0x6D, 0x32]), (0x33A3, [0x6D, 0x6D, 0x33]), (0x33A4, [0x63, 0x6D, 0x33]),
    (0x33A5, [0x6D, 0x33]), (0x33A6, [0x6B, 0x6D, 0x33]), (0x33A7, [0x6D, 0x2215, 0x73]),
    (0x33A8, [0x6D, 0x2215, 0x73, 0x32]), (0x33A9, [0x70, 0x61]), (0x33AA, [0x6B, 0x70, 0x61]),
    (0x33AB, [0x6D, 0x70, 0x61]), (0x33AC, [0x67, 0x70, 0x61]), (0x33AD, [0x72, 0x61, 0x64]),
    (0x33AE, [0x72, 0x61, 0x64, 0x2215, 0x73]),
    (0x33AF, [0x72, 0x61, 0x64, 0x2215, 0x73, 0x32]), (0x33B0, [0x70, 0x73]),
    (0x33B1, [0x6E, 0x73]), (0x33B2, [0x3BC, 0x73]), (0x33B3, [0x6D, 0x73]),
    (0x33B4, [0x70, 0x76]), (0x33B5, [0x6E, 0x76]), (0x33B6, [0x3BC, 0x76]),
    (0x33B7, [0x6D, 0x76]), (0x33B8, [0x6B, 0x76]), (0x33B9, [0x6D, 0x76]),
    (0x33BA, [0x70, 0x77]), (0x33BB, [0x6E, 0x77]), (0x33BC, [0x3BC, 0x77]),
    (0x33BD, [0x6D, 0x77]), (0x33BE, [0x6B, 0x77]), (0x33BF, [0x6D, 0x77]),
    (0x33C0, [0x6B, 0x3C9]), (0x33C1, [0x6D, 0x3C9]), (0x33C3, [0x62, 0x71]),
    (0x33C4, [0x63, 0x63]), (0x33C5, [0x63, 0x64]), (0x33C6, [0x63, 0x2215, 0x6B, 0x67]),
    (0x33C8, [0x64, 0x62]), (0x33C9, [0x67, 0x79]), (0x33CA, [0x68, 0x61]),
    (0x33CB, [0x68, 0x70]), (0x33CC, [0x69, 0x6E]), (0x33CD, [0x6B, 0x6B]),
    (0x33CE, [0x6B, 0x6D]), (0x33CF, [0x6B, 0x74]), (0x33D0, [0x6C, 0x6D]),
    (0x33D1, [0x6C, 0x6E]), (0x33D2, [0x6C, 0x6F, 0x67]), (0x33D3, [0x6C, 0x78]),
    (0x33D4, [0x6D, 0x62]), (0x33D5, [0x6D, 0x69, 0x6C]), (0x33D6, [0x6D, 0x6F, 0x6C]),
    (0x33D7, [0x70, 0x68]), (0x33D9, [0x70, 0x70, 0x6D]), (0x33DA, [0x70, 0x72]),
    (0x33DB, [0x73, 0x72]), (0x33DC, [0x73, 0x76]), (0x33DD, [0x77, 0x62]),
    (0x33DE, [0x76, 0x2215, 0x6D]), (0x33DF, [0x61, 0x2215, 0x6D]), (0x33E0, [0x31, 0x65E5]),
    (0x33E1, [0x32, 0x65E5]), (0x33E2, [0x33, 0x65E5]), (0x33E3, [0x34, 0x65E5]),
    (0x33E4, [0x35, 0x65E5]), (0x33E5, [0x36, 0x65E5]), (0x33E6, [0x37, 0x65E5]),
    (0x33E7, [0x38, 0x65E5]), (0x33E8, [0x39, 0x65E5]), (0x33E9, [0x31, 0x30, 0x65E5]),
    (0x33EA, [0x31, 0x31, 0x65E5]), (0x33EB, [0x31, 0x32, 0x65E5]),
    (0x33EC, [0x31, 0x33, 0x65E5]), (0x33ED, [0x31, 0x34, 0x65E5]),
    (0x33EE, [0x31, 0x35, 0x65E5]), (0x33EF, [0x31, 0x36, 0x65E5]),
    (0x33F0, [0x31, 0x37, 0x65E5]), (0x33F1, [0x31, 0x38, 0x65E5]),
    (0x33F2, [0x31, 0x39, 0x65E5]), (0x33F3, [0x32, 0x30, 0x65E5]),
    (0x33F4, [0x32, 0x31, 0x65E5]), (0x33F5, [0x32, 0x32, 0x65E5]),
    (0x33F6, [0x32, 0x33, 0x65E5]), (0x33F7, [0x32, 0x34, 0x65E5]),
    (0x33F8, [0x32, 0x35, 0x65E5]), (0x33F9, [0x32, 0x36, 0x65E5]),
    (0x33FA, [0x32, 0x37, 0x65E5]), (0x33FB, [0x32, 0x38, 0x65E5]),
    (0x33FC, [0x32, 0x39, 0x65E5]), (0x33FD, [0x33, 0x30, 0x65E5]),
    (0x33FE, [0x33, 0x31, 0x65E5]), (0x33FF, [0x67, 0x61, 0x6C]), (0xFB00, [0x66, 0x66]),
    (0xFB01, [0x66, 0x69]), (0xFB02, [0x66, 0x6C]), (0xFB03, [0x66, 0x66, 0x69]),
    (0xFB04, [0x66, 0x66, 0x6C]), (0xFB05, [0x73, 0x74]), (0xFB06, [0x73, 0x74]),
    (0x1F101, [0x30, 0x2C]), (0x1F102, [0x31, 0x2C]), (0x1F103, [0x32, 0x2C]),
    (0x1F104, [0x33, 0x2C]), (0x1F105, [0x34, 0x2C]), (0x1F106, [0x35, 0x2C]),
    (0x1F107, [0x36, 0x2C]), (0x1F108, [0x37, 0x2C]), (0x1F109, [0x38, 0x2C]),
    (0x1F10A, [0x39, 0x2C]), (0x1F110, [0x28, 0x61, 0x29]), (0x1F111, [0x28, 0x62, 0x29]),
    (0x1F112, [0x28, 0x63, 0x29]), (0x1F113, [0x28, 0x64, 0x29]), (0x1F114, [0x28, 0x65, 0x29]),
    (0x1F115, [0x28, 0x66, 0x29]), (0x1F116, [0x28, 0x67, 0x29]), (0x1F117, [0x28, 0x68, 0x29]),
    (0x1F118, [0x28, 0x69, 0x29]), (0x1F119, [0x28, 0x6A, 0x29]), (0x1F11A, [0x28, 0x6B, 0x29]),
    (0x1F11B, [0x28, 0x6C, 0x29]), (0x1F11C, [0x28, 0x6D, 0x29]), (0x1F11D, [0x28, 0x6E, 0x29]),
    (0x1F11E, [0x28, 0x6F, 0x29]), (0x1F11F, [0x28, 0x70, 0x29]), (0x1F120, [0x28, 0x71, 0x29]),
    (0x1F121, [0x28, 0x72, 0x29]), (0x1F122, [0x28, 0x73, 0x29]), (0x1F123, [0x28, 0x74, 0x29]),
    (0x1F124, [0x28, 0x75, 0x29]), (0x1F125, [0x28, 0x76, 0x29]), (0x1F126, [0x28, 0x77, 0x29]),
    (0x1F127, [0x28, 0x78, 0x29]), (0x1F128, [0x28, 0x79, 0x29]), (0x1F129, [0x28, 0x7A, 0x29]),
    (0x1F12A, [0x3014, 0x73, 0x3015]), (0x1F12D, [0x63, 0x64]), (0x1F12E, [0x77, 0x7A]),
    (0x1F14A, [0x68, 0x76]), (0x1F14B, [0x6D, 0x76]), (0x1F14C, [0x73, 0x64]),
    (0x1F14D, [0x73, 0x73]), (0x1F14E, [0x70, 0x70, 0x76]), (0x1F14F, [0x77, 0x63]),
    (0x1F16A, [0x6D, 0x63]), (0x1F16B, [0x6D, 0x64]), (0x1F16C, [0x6D, 0x72]),
    (0x1F190, [0x64, 0x6A])]

end FlatMessage.Location.Domain
