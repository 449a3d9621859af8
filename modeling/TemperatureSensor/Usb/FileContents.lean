/-
  The constant arrays of `app.c` behind the three files of
  the USB disk.

  Main declarations:
    * `readmeFile`
    * `indexFile`
    * `testFile`
-/

------------------------------------------------------------
-- Sizes
------------------------------------------------------------

namespace TemperatureSensor

def readmeSize : UInt32 := 256

def indexSize : UInt32 := 256

def testSize : UInt32 := 1367

------------------------------------------------------------
-- Contents
------------------------------------------------------------

/- The characters of a string. -/
def chars (s : String) : List UInt8 :=
  s.toList.map (fun c => UInt8.ofNat c.toNat)

def readmeText : List UInt8 :=
  chars "Firmware version "

def indexText : List UInt8 :=
  chars "<html><head><meta http-equiv=\"refresh\" " ++
    chars "content=\"0; url=https://plutongroup." ++
    chars "github.io/MSD_Zigbee/\"/><title>" ++
    chars "MSD_Zigbee Shortcut</title></head>" ++
    chars "<body></body></html>"

/- `readme_file`, with the terminator of its literal. -/
def readmeFile : List UInt8 :=
  readmeText ++ [0]

/- `index_file`. -/
def indexFile : List UInt8 :=
  indexText ++ [0]

/- `test_file`. -/
def testFile : List UInt8 := [
  0x52, 0x61, 0x72, 0x21, 0x1A, 0x07, 0x01, 0x00, 0xF3, 0xE1,
  0x82, 0xEB, 0x0B, 0x01, 0x05, 0x07, 0x00, 0x06, 0x01, 0x01,
  0x80, 0x80, 0x80, 0x00, 0x9F, 0xB9, 0xAA, 0x21, 0x34, 0x02,
  0x03, 0x0B, 0xFE, 0x89, 0x00, 0x04, 0xC8, 0xFF, 0x01, 0x20,
  0x69, 0x82, 0xE6, 0x25, 0x80, 0x03, 0x00, 0x16, 0x53, 0x65,
  0x6E, 0x73, 0x6F, 0x72, 0x5F, 0x52, 0x6F, 0x75, 0x74, 0x65,
  0x72, 0x5F, 0x31, 0x5F, 0x30, 0x31, 0x2E, 0x6D, 0x62, 0x70,
  0x0A, 0x03, 0x02, 0x85, 0xDB, 0xF8, 0xC6, 0xCC, 0x71, 0xD8,
  0x01, 0xCC, 0x68, 0xFA, 0x04, 0x30, 0x75, 0x43, 0x43, 0x33,
  0x3F, 0x36, 0x04, 0x7C, 0x4D, 0x27, 0xF0, 0x91, 0xFC, 0x23,
  0xB2, 0xB6, 0xC4, 0xE1, 0x45, 0x0C, 0x09, 0x45, 0xE5, 0x22,
  0x4B, 0x75, 0x6E, 0xA7, 0x1D, 0xF8, 0x00, 0xDC, 0x6E, 0xB9,
  0x68, 0x0F, 0xE1, 0x43, 0x6A, 0xCB, 0x2C, 0x80, 0x57, 0x1C,
  0x89, 0x49, 0x58, 0xAD, 0xA8, 0xC3, 0x49, 0xD0, 0xEF, 0x39,
  0xCE, 0xCE, 0x34, 0x09, 0xD2, 0xFF, 0x0D, 0x79, 0x5E, 0x97,
  0x9D, 0x17, 0xAB, 0xE1, 0x79, 0x5F, 0xE0, 0x2D, 0xE3, 0x45,
  0xE7, 0x78, 0xD1, 0x45, 0xE1, 0x45, 0xD1, 0x84, 0xEA, 0x38,
  0x49, 0xDD, 0x7A, 0x9A, 0x4A, 0x36, 0x93, 0x01, 0x42, 0xAD,
  0xA1, 0xD7, 0xC6, 0x71, 0x93, 0x48, 0x2F, 0x4E, 0xE1, 0x38,
  0x77, 0xD9, 0x84, 0x9C, 0xC2, 0x4E, 0xAD, 0xD7, 0xFC, 0xC1,
  0x1E, 0x18, 0x7F, 0x0F, 0x0F, 0x0F, 0x0F, 0x7B, 0xF6, 0x9C,
  0x3F, 0x2D, 0x27, 0x81, 0xD2, 0x46, 0x9C, 0x1A, 0x37, 0xF8,
  0x49, 0xDE, 0xB0, 0x07, 0x6C, 0x11, 0xC4, 0x70, 0x33, 0x6E,
  0x81, 0xB7, 0x91, 0xE0, 0x89, 0xF1, 0x58, 0xA7, 0xF8, 0x91,
  0x8F, 0xD5, 0x1E, 0xC2, 0x6A, 0xA8, 0xBB, 0xFE, 0xD5, 0xD7,
  0x0B, 0x13, 0xCB, 0x9E, 0x73, 0x0E, 0x2F, 0x37, 0xF9, 0xAF,
  0x19, 0x78, 0x4F, 0x07, 0xED, 0x7E, 0xFB, 0xDF, 0xDB, 0xD8,
  0x1D, 0x70, 0xA0, 0x1B, 0x61, 0x48, 0x35, 0xC3, 0xC0, 0x14,
  0x43, 0x54, 0x3B, 0x01, 0x24, 0xE2, 0x21, 0xF5, 0xBE, 0x7F,
  0x05, 0x55, 0xAA, 0xA6, 0xF1, 0xC6, 0x57, 0x25, 0x7F, 0x75,
  0x08, 0xCE, 0xF9, 0x1A, 0x7D, 0x63, 0x87, 0xC0, 0x1E, 0xF2,
  0xA6, 0x3C, 0x5C, 0x1A, 0xF7, 0xDB, 0xDA, 0xD0, 0x57, 0x3F,
  0xC7, 0x7A, 0xF7, 0x2A, 0x33, 0xF4, 0xF8, 0xAD, 0x41, 0x4C,
  0x29, 0xC0, 0xD0, 0x4A, 0x09, 0xC5, 0xDD, 0x6C, 0x86, 0xD2,
  0x86, 0x6B, 0x05, 0x30, 0xDC, 0x2E, 0x74, 0x2D, 0xA8, 0xB3,
  0xC6, 0xCA, 0xBA, 0x32, 0x6D, 0x95, 0x09, 0x30, 0x5C, 0x17,
  0x46, 0x68, 0xE4, 0x0F, 0x50, 0x72, 0x4C, 0xF2, 0x8E, 0x4D,
  0x6D, 0x2D, 0x97, 0x0B, 0x68, 0x5B, 0x19, 0x82, 0xE0, 0xBA,
  0x2C, 0x93, 0x7E, 0xB2, 0x41, 0x5C, 0xCC, 0xD2, 0xEC, 0x6A,
  0x97, 0x77, 0x4D, 0x79, 0x8F, 0xD4, 0x99, 0x51, 0x76, 0x91,
  0xB8, 0x76, 0x56, 0x78, 0xEF, 0x53, 0xB2, 0x1A, 0xE7, 0x33,
  0x13, 0xA0, 0xB5, 0x17, 0xCE, 0xE9, 0x0A, 0x70, 0x07, 0xD2,
  0x88, 0x15, 0xA0, 0xE9, 0x94, 0xCD, 0x55, 0x17, 0xFD, 0x25,
  0xEA, 0x71, 0x60, 0xAE, 0x54, 0xC1, 0x50, 0xB1, 0x7A, 0x82,
  0x71, 0x42, 0x25, 0xD1, 0x64, 0x85, 0xDC, 0xD3, 0x76, 0xEF,
  0x14, 0x3F, 0xDB, 0x5B, 0x7B, 0xC3, 0x65, 0x36, 0x7D, 0xD9,
  0x81, 0x5F, 0x13, 0x65, 0x4F, 0x7C, 0x26, 0xBE, 0x6D, 0x50,
  0xE9, 0xC2, 0xB7, 0xDD, 0xD8, 0x26, 0xFD, 0x94, 0xB6, 0x63,
  0xB5, 0x07, 0xD2, 0x9B, 0x8F, 0xDD, 0x0D, 0x38, 0x0A, 0xAC,
  0xFC, 0x76, 0x41, 0x3A, 0x15, 0x05, 0x9C, 0xCD, 0x4B, 0x75,
  0xEB, 0x1E, 0x33, 0x0E, 0x66, 0x94, 0xCF, 0x78, 0x88, 0xEE,
  0x06, 0xC1, 0xC5, 0x97, 0x70, 0xC2, 0xCF, 0x93, 0x49, 0xB6,
  0xFC, 0xDD, 0x34, 0x59, 0xE7, 0x05, 0xC7, 0x55, 0xE1, 0x34,
  0x51, 0xD0, 0x85, 0x63, 0x96, 0x43, 0xA8, 0x2B, 0x9C, 0x50,
  0x94, 0x97, 0x6A, 0x5C, 0xCF, 0x71, 0x6E, 0xE0, 0x95, 0x6C,
  0xB4, 0x28, 0x49, 0x4B, 0x6C, 0xB3, 0x28, 0xA6, 0xCD, 0xF2,
  0xBA, 0xDB, 0xF6, 0x44, 0x41, 0x08, 0x97, 0xD5, 0x45, 0xEC,
  0xA7, 0x02, 0x37, 0x3C, 0x8A, 0x96, 0xE6, 0x5C, 0xF5, 0xB1,
  0x55, 0x15, 0x22, 0xD2, 0x94, 0x9D, 0x5A, 0x55, 0xB8, 0xB4,
  0xDA, 0x64, 0x83, 0x94, 0x9B, 0xF7, 0xA2, 0x11, 0xAA, 0xA4,
  0x72, 0x0A, 0xBD, 0x54, 0x55, 0x97, 0x55, 0xE6, 0xCD, 0xFB,
  0x18, 0x86, 0x68, 0xAA, 0x6D, 0xC3, 0x6F, 0x29, 0x8C, 0xB1,
  0xCF, 0x85, 0x43, 0x74, 0x51, 0x6A, 0x91, 0x1E, 0xFD, 0xC5,
  0x0F, 0x32, 0x41, 0x52, 0x74, 0xD1, 0x7A, 0x1C, 0x46, 0xE0,
  0xE7, 0x53, 0x82, 0x09, 0xDA, 0xE7, 0xA6, 0xF9, 0xC4, 0xB1,
  0xC0, 0xD3, 0x59, 0x21, 0xD2, 0x46, 0xB7, 0x5F, 0x2A, 0xF0,
  0x43, 0x45, 0xD7, 0x25, 0x18, 0x18, 0x7E, 0x8B, 0x05, 0xE4,
  0x1B, 0xC8, 0x7C, 0x9A, 0xBC, 0x0D, 0x69, 0x2E, 0xF6, 0xB9,
  0xF6, 0x45, 0x2D, 0x34, 0xD5, 0x7B, 0xE9, 0xBA, 0x32, 0x60,
  0xCF, 0x9D, 0x7A, 0x71, 0xA0, 0x13, 0x6A, 0x16, 0x16, 0xA5,
  0x02, 0x77, 0x44, 0xA8, 0x49, 0x24, 0x7B, 0x52, 0x04, 0xF2,
  0xFA, 0xDB, 0x34, 0x0F, 0xD7, 0xB9, 0x16, 0x7C, 0x94, 0x7B,
  0x4A, 0xA4, 0xD9, 0x0C, 0xA6, 0xB0, 0x6A, 0x93, 0xD9, 0x68,
  0xB6, 0x93, 0xD3, 0x82, 0xB4, 0x8A, 0x0C, 0x88, 0xAF, 0xB0,
  0xAC, 0xB2, 0x95, 0x61, 0xA0, 0xCE, 0x5C, 0xAB, 0x1E, 0xCE,
  0x20, 0x7B, 0x31, 0x17, 0xA2, 0x54, 0x3A, 0xDF, 0xCA, 0x7F,
  0x22, 0xB1, 0xF1, 0x66, 0x0C, 0x88, 0x6D, 0xAE, 0xC3, 0x27,
  0xA7, 0x61, 0xF3, 0x82, 0xDA, 0xB1, 0x0B, 0x93, 0x76, 0x6E,
  0x26, 0xFD, 0x90, 0x6B, 0x1D, 0x91, 0x50, 0x62, 0x99, 0xB7,
  0xF3, 0x76, 0xF9, 0x03, 0x59, 0x79, 0x95, 0x6C, 0x2F, 0x61,
  0xF8, 0x94, 0x73, 0x76, 0xD7, 0x6C, 0x5D, 0x98, 0x3B, 0xD0,
  0xAF, 0xEC, 0x9B, 0x26, 0xE0, 0xAB, 0x52, 0x71, 0x73, 0xD9,
  0x22, 0xE8, 0x93, 0x49, 0x53, 0xB6, 0x04, 0x10, 0x79, 0x65,
  0x86, 0x60, 0x68, 0x10, 0xAE, 0xEA, 0xD7, 0xC3, 0xAD, 0x85,
  0xE0, 0xC6, 0x4B, 0x52, 0xAC, 0x68, 0x2F, 0xC1, 0x60, 0x16,
  0xA9, 0xE6, 0xA5, 0xE4, 0x1E, 0x6E, 0xC9, 0x43, 0x52, 0x64,
  0xDB, 0x4B, 0xA1, 0x17, 0x11, 0xB8, 0x61, 0xE4, 0x67, 0x0D,
  0xFE, 0x05, 0x04, 0xDF, 0x2C, 0xDD, 0xAF, 0xB8, 0x75, 0xAC,
  0x04, 0x4F, 0x1C, 0xCD, 0x63, 0xCE, 0x79, 0xAE, 0x70, 0x06,
  0x99, 0x4C, 0x74, 0xE2, 0x23, 0x39, 0x67, 0x63, 0x77, 0x2A,
  0x10, 0xAB, 0x2B, 0x3D, 0x2B, 0xF8, 0x34, 0xA6, 0xDF, 0xD4,
  0x3C, 0x89, 0x32, 0xEE, 0x1C, 0x4D, 0xA1, 0x6C, 0x66, 0x0B,
  0x82, 0xE8, 0xCD, 0x33, 0xA3, 0x85, 0x13, 0xC8, 0xE4, 0x2D,
  0xCE, 0x59, 0x7B, 0x43, 0x30, 0xA2, 0xB9, 0xAE, 0xA8, 0x68,
  0xAF, 0x76, 0x79, 0x5B, 0x5A, 0xD9, 0x11, 0x6F, 0x4E, 0x2B,
  0x9D, 0x1D, 0xA0, 0xD2, 0xCD, 0x23, 0x7E, 0x04, 0xF8, 0x27,
  0xA9, 0x9D, 0xE5, 0x79, 0x6F, 0x9D, 0x0A, 0xD7, 0x0E, 0x98,
  0x67, 0xEB, 0x82, 0xE8, 0xCD, 0x1E, 0x4E, 0x9C, 0xBE, 0xBC,
  0xDF, 0xD9, 0x7D, 0x2D, 0xF7, 0xEB, 0x42, 0xD8, 0xCC, 0x17,
  0x05, 0xD1, 0x9A, 0x3C, 0x9D, 0x38, 0x8B, 0xED, 0x14, 0x79,
  0x9C, 0xCC, 0x4F, 0x9F, 0xEB, 0x76, 0xD9, 0xB1, 0x2C, 0x31,
  0x3E, 0x24, 0x76, 0x0B, 0x8B, 0x45, 0x19, 0x7E, 0x6A, 0x11,
  0xFA, 0xB3, 0xB5, 0xC3, 0xE6, 0xB9, 0x34, 0xBD, 0xE4, 0x4C,
  0xBB, 0x85, 0x2F, 0x75, 0x59, 0x26, 0x12, 0x84, 0x36, 0x73,
  0x26, 0xF4, 0x58, 0xB0, 0x87, 0x6A, 0x41, 0xFB, 0x2D, 0x79,
  0x67, 0xF3, 0xA1, 0x66, 0x0E, 0xE2, 0x1A, 0xAA, 0x04, 0x3F,
  0x5C, 0x48, 0xE6, 0x31, 0xA4, 0x7A, 0x8B, 0x61, 0x03, 0xA4,
  0x74, 0xF7, 0x0D, 0x18, 0x51, 0x19, 0x21, 0xEA, 0xFA, 0xE6,
  0x8E, 0xFA, 0x79, 0x00, 0xA6, 0x5F, 0x92, 0x24, 0xB0, 0xF6,
  0xC3, 0xB0, 0x1F, 0x61, 0x25, 0xCC, 0x83, 0x1B, 0x73, 0xAA,
  0xFC, 0xB5, 0x1A, 0xAB, 0xF5, 0x73, 0xD0, 0x32, 0x28, 0x58,
  0x22, 0x7C, 0x58, 0x75, 0xCA, 0xF9, 0x7E, 0x81, 0xC4, 0x7C,
  0x1B, 0x1A, 0xB5, 0xAB, 0x0B, 0xE0, 0xA3, 0xE3, 0x07, 0x26,
  0x1B, 0x45, 0xC1, 0x74, 0x66, 0x8E, 0x40, 0xF5, 0x07, 0x24,
  0xDE, 0x65, 0x7B, 0xCC, 0xF8, 0xD1, 0xD6, 0x8D, 0xA6, 0xD8,
  0xCC, 0x17, 0x05, 0xD1, 0xB5, 0xAE, 0xDD, 0x6B, 0x19, 0x5B,
  0xED, 0xC3, 0xE3, 0x15, 0x3D, 0x23, 0x5D, 0xA0, 0x19, 0xE1,
  0x7D, 0xB4, 0x1B, 0xBE, 0x46, 0x09, 0x6B, 0xFE, 0x35, 0x76,
  0xBE, 0xBA, 0x22, 0xB7, 0x43, 0x9C, 0x1E, 0xD2, 0xA8, 0x93,
  0x1C, 0x22, 0xF8, 0xFB, 0xD8, 0xF1, 0x7E, 0x43, 0xE7, 0xA3,
  0x56, 0x7C, 0x88, 0xB9, 0x61, 0xF7, 0x87, 0xF4, 0x1F, 0x70,
  0x7D, 0x28, 0x5A, 0xBF, 0x00, 0xFD, 0xCF, 0x04, 0x1D, 0x9E,
  0x52, 0x51, 0xD3, 0xD6, 0x0D, 0xE2, 0x2B, 0xDA, 0x5F, 0x65,
  0x1A, 0x44, 0x7B, 0xCB, 0xBB, 0xEB, 0xDE, 0x6F, 0x33, 0x02,
  0xFF, 0x0B, 0x07, 0xD2, 0xE7, 0x05, 0x87, 0x89, 0x1B, 0x40,
  0x6C, 0xFF, 0xC9, 0xEF, 0xDB, 0x29, 0xFB, 0x3E, 0x2C, 0xAA,
  0xF2, 0x47, 0x9A, 0x9E, 0x87, 0x9F, 0x53, 0x41, 0xEF, 0xFD,
  0xEE, 0x11, 0xBD, 0xEA, 0xDC, 0x47, 0xD1, 0xF7, 0x8F, 0xA1,
  0xAF, 0x1F, 0xD6, 0x3A, 0xFD, 0x55, 0xF4, 0x4E, 0x3A, 0x4A,
  0xFF, 0xEA, 0x48, 0xE3, 0xA8, 0x52, 0x3F, 0x97, 0x9E, 0x7B,
  0xF3, 0x28, 0xF4, 0x5F, 0x3E, 0x81, 0xE8, 0xDE, 0x99, 0x7D,
  0x51, 0xE2, 0x19, 0x80, 0x63, 0x10, 0x7B, 0x72, 0x0C, 0xBC,
  0x77, 0x83, 0xF1, 0xE2, 0xAF, 0x9E, 0xF6, 0x08, 0xFA, 0xB7,
  0x66, 0x58, 0x72, 0x2A, 0x34, 0x93, 0x1D, 0x78, 0x25, 0xFE,
  0x80, 0x7D, 0xE2, 0x78, 0xF5, 0xE0, 0x43, 0x48, 0x8A, 0x82,
  0x4F, 0x5D, 0x4C, 0x44, 0xA0, 0x86, 0x8A, 0xB2, 0x80, 0x1D,
  0x77, 0x56, 0x51, 0x03, 0x05, 0x04, 0x00]

theorem length_testFile : testFile.length = 1367 := by
  decide +kernel

end TemperatureSensor
