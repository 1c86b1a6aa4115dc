/-!
# Names of East Asian and presented characters

The names of radicals, kana, syllables and other characters of East Asia, and the forms in which
letters are presented. Each row has the first character and the names from it on, as
`BooksGateway.Text.CharName` reads them.
-/

namespace BooksGateway.Text.CharName

/-- The names from U+2E80 to U+FFFF, in rows. -/
def eastAsia : List (Nat × String) := [
  (0x2E80, "aCJK RADICAL REPEATcCLIFFcSECOND ONEdTWOdTHREEcPERSONcBOXcTABLEcKNIFE ONEdTWO"),
  (0x2E8A, "cDIVINATIONcSEALcSMALL ONEdTWOcLAME ONEdTWOdTHREEdFOURcSNAKEcTHREADcSNOUT ONEdTWO"),
  (0x2E96, "cHEART ONEdTWOcHANDcRAP"),
  (0x2E9B, "cCHOKEcSUNcMOONcDEATHcMOTHERcCIVILIANcWATER ONEdTWOcFIREcPAW ONEdTWO"),
  (0x2EA6, "cSIMPLIFIED HALF TREE TRUNKcCOWcDOGcJADEcBOLT OF CLOTHcEYEcSPIRIT ONEdTWOcBAMBOOcSILK"),
  (0x2EB0, "cC-SIMPLIFIEDncNET ONEdTWOdTHREEdFOURcMESHcSHEEPcRAMcEWEcOLDcBRUSH ONEdTWOcMEAT"),
  (0x2EBD, "cMORTARcGRASS ONEdTWOdTHREEcTIGERcCLOTHEScWEST ONEdTWOcC-SIMPLIFIED SEE"),
  (0x2EC6, "cSIMPLIFIED HORNcncC-SIMPLIFIED SPEECHdSHELLcFOOTcC-SIMPLIFIED CARTcSIMPLIFIED WALK"),
  (0x2ECD, "cWALK ONEdTWOcCITYcC-SIMPLIFIED GOLDcLONG ONEdTWOcC-SIMPLIFIED LONGdGATEcMOUND ONE"),
  (0x2ED6, "dTWOcRAINcBLUEcC-SIMPLIFIED TANNED LEATHERdLEAFdWINDdFLYcEAT ONEdTWOdTHREE"),
  (0x2EE0, "cC-SIMPLIFIED EATcHEADcC-SIMPLIFIED HORSEcBONEcGHOSTcC-SIMPLIFIED FISHdBIRDdSALT"),
  (0x2EE8, "cSIMPLIFIED WHEATdYELLOWcC-SIMPLIFIED FROGcJ-SIMPLIFIED EVENcC-SIMPLIFIEDn"),
  (0x2EED, "cJ-SIMPLIFIED TOOTHcC-SIMPLIFIEDncJ-SIMPLIFIED DRAGONcC-SIMPLIFIEDncTURTLE"),
  (0x2EF2, "cJ-SIMPLIFIEDncC-SIMPLIFIEDn"),
  (0x2F00, "aKANGXI RADICAL ONEcLINEcDOTcSLASHcSECONDcHOOKcTWOcLIDcMANcLEGScENTERcEIGHTcDOWN BOX"),
  (0x2F0D, "cCOVERcICEcTABLEcOPEN BOXcKNIFEcPOWERcWRAPcSPOONcRIGHT OPEN BOXcHIDING ENCLOSUREcTEN"),
  (0x2F18, "cDIVINATIONcSEALcCLIFFcPRIVATEcAGAINcMOUTHcENCLOSUREcEARTHcSCHOLARcGOdSLOWLYcEVENING"),
  (0x2F24, "cBIGcWOMANcCHILDcROOFcINCHcSMALLcLAMEcCORPSEcSPROUTcMOUNTAINcRIVERcWORKcONESELF"),
  (0x2F31, "cTURBANcDRYcSHORT THREADcDOTTED CLIFFcLONG STRIDEcTWO HANDScSHOOTcBOWcSNOUTcBRISTLE"),
  (0x2F3B, "cSTEPcHEARTcHALBERDcDOORcHANDcBRANCHcRAPcSCRIPTcDIPPERcAXEcSQUAREcNOTcSUNcSAYcMOON"),
  (0x2F4A, "cTREEcLACKcSTOPcDEATHcWEAPONcDO NOTcCOMPAREcFURcCLANcSTEAMcWATERcFIREcCLAWcFATHER"),
  (0x2F58, "cDOUBLE XcHALF TREE TRUNKcSLICEcFANGcCOWcDOGcPROFOUNDcJADEcMELONcTILEcSWEETcLIFEcUSE"),
  (0x2F65, "cFIELDcBOLT OF CLOTHcSICKNESScDOTTED TENTcWHITEcSKINcDISHcEYEcSPEARcARROWcSTONE"),
  (0x2F70, "cSPIRITcTRACKcGRAINcCAVEcSTANDcBAMBOOcRICEcSILKcJARcNETcSHEEPcFEATHERcOLDcANDcPLOW"),
  (0x2F7F, "cEARcBRUSHcMEATcMINISTERcSELFcARRIVEcMORTARcTONGUEcOPPOSEcBOATcSTOPPINGcCOLORcGRASS"),
  (0x2F8C, "cTIGERcINSECTcBLOODcWALK ENCLOSUREcCLOTHEScWESTcSEEcHORNcSPEECHcVALLEYcBEANcPIG"),
  (0x2F98, "cBADGERcSHELLcREDcRUNcFOOTcBODYcCARTcBITTERcMORNINGcWALKcCITYcWINEcDISTINGUISH"),
  (0x2FA5, "cVILLAGEcGOLDcLONGcGATEcMOUNDcSLAVEcSHORT TAILED BIRDcRAINcBLUEcWRONGcFACEcLEATHER"),
  (0x2FB1, "cTANNEDncLEEKcSOUNDcLEAFcWINDcFLYcEATcHEADcFRAGRANTcHORSEcBONEcTALLcHAIRcFIGHT"),
  (0x2FBF, "cSACRIFICIAL WINEcCAULDRONcGHOSTcFISHcBIRDcSALTcDEERcWHEATcHEMPcYELLOWcMILLETcBLACK"),
  (0x2FCB, "cEMBROIDERYcFROGcTRIPODcDRUMcRATcNOSEcEVENcTOOTHcDRAGONcTURTLEcFLUTE"),
  (0x2FF0, "aIDEOGRAPHIC DESCRIPTION CHARACTER LEFT TO RIGHTdABOVE TO BELOW"),
  (0x2FF2, "dLEFT TO MIDDLE AND RIGHTdABOVE TO MIDDLE AND BELOWdFULL SURROUNDdSURROUND FROM ABOVE"),
  (0x2FF6, "fBELOWfLEFTfUPPERngRIGHTfLOWER LEFTdOVERLAID"),
  (0x3000, "bSPACEbCOMMAbFULL STOPaDITTO MARKaJAPANESE INDUSTRIAL STANDARD SYMBOL"),
  (0x3005, "aIDEOGRAPHIC ITERATION MARKbCLOSINGnbNUMBER ZEROaLEFT ANGLE BRACKETaRIGHTo"),
  (0x300A, "aLEFT DOUBLEoaRIGHTpaLEFT CORNERnaRIGHToaLEFT WHITEoaRIGHTpaLEFT BLACK LENTICULARn"),
  (0x3011, "aRIGHTpaPOSTAL MARKaGETAnaLEFT TORTOISE SHELL BRACKETaRIGHTpaLEFT WHITE LENTICULARn"),
  (0x3017, "aRIGHTpaLEFT WHITE TORTOISE SHELLnaRIGHTqaLEFT WHITE SQUAREnaRIGHTpaWAVE DASH"),
  (0x301D, "aREVERSED DOUBLE PRIME QUOTATION MARKaqaLOWqaPOSTAL MARK FACEaHANGZHOU NUMERAL ONE"),
  (0x3022, "cTWOcTHREEcFOURcFIVEcSIXcSEVENcEIGHTcNINEaIDEOGRAPHIC LEVEL TONE MARKbRISINGo"),
  (0x302C, "bDEPARTINGobENTERINGoaHANGUL SINGLE DOTobDOUBLEpaWAVY DASHaVERTICAL KANA REPEAT MARK"),
  (0x3032, "dWITH VOICED SOUNDndMARK UPPER HALFdWITH VOICED SOUNDpdMARK LOWERn"),
  (0x3036, "aCIRCLED POSTAL MARKaIDEOGRAPHIC TELEGRAPH LINE FEED SEPARATOR SYMBOL"),
  (0x3038, "aHANGZHOU NUMERAL TENcTWENTYcTHIRTYaVERTICAL IDEOGRAPHIC ITERATION MARKaMASUn"),
  (0x303D, "aPART ALTERNATIONnaIDEOGRAPHIC VARIATION INDICATORbHALF FILL SPACE"),
  (0x3041, "aHIRAGANA LETTER SMALL AcncSMALL IcncSMALL UcncSMALL EcncSMALL OcncKAcGAcKIcGIcKUcGU"),
  (0x3051, "cKEcGEcKOcGOcSAcZAcSIcZIcSUcZUcSEcZEcSOcZOcTAcDAcTIcDIcSMALL TUcncDUcTEcDEcTOcDOcNA"),
  (0x306B, "cNIcNUcNEcNOcHAcBAcPAcHIcBIcPIcHUcBUcPUcHEcBEcPEcHOcBOcPOcMAcMIcMUcMEcMOcSMALL YAcn"),
  (0x3085, "cSMALL YUcncSMALL YOcncRAcRIcRUcREcROcSMALL WAcncWIcWEcWOcNcVUcSMALL KAdKE"),
  (0x3099, "aCOMBINING KATAKANA-HIRAGANA VOICED SOUND MARKcSEMI-VOICEDoaKATAKANA-HIRAGANA VOICEDo"),
  (0x309C, "bSEMI-VOICEDoaHIRAGANA ITERATIONnbVOICEDobDIGRAPH YORI"),
  (0x30A0, "aKATAKANA-HIRAGANA DOUBLE HYPHENaKATAKANA LETTER SMALL AcncSMALL IcncSMALL Ucn"),
  (0x30A7, "cSMALL EcncSMALL OcncKAcGAcKIcGIcKUcGUcKEcGEcKOcGOcSAcZAcSIcZIcSUcZUcSEcZEcSOcZOcTA"),
  (0x30C0, "cDAcTIcDIcSMALL TUcncDUcTEcDEcTOcDOcNAcNIcNUcNEcNOcHAcBAcPAcHIcBIcPIcHUcBUcPUcHEcBE"),
  (0x30DA, "cPEcHOcBOcPOcMAcMIcMUcMEcMOcSMALL YAcncSMALL YUcncSMALL YOcncRAcRIcRUcREcROcSMALL WA"),
  (0x30EF, "cncWIcWEcWOcNcVUcSMALL KAdKEcVAcVIcVEcVObMIDDLE DOT"),
  (0x30FC, "aKATAKANA-HIRAGANA PROLONGED SOUND MARKaKATAKANA ITERATIONnbVOICEDobDIGRAPH KOTO"),
  (0x3105, "aBOPOMOFO LETTER BcPcMcFcDcTcNcLcGcKcHcJcQcXcZHcCHcSHcRcZcCcScAcOcEcEHcAIcEIcAUcOUcAN"),
  (0x3123, "cENcANGcENGcERcIcUcIUcVcNGcGNcIHcO WITH DOT ABOVEcNN"),
  (0x3131, "aHANGUL LETTER KIYEOKcSSANGKIYEOKcKIYEOK-SIOScNIEUNcNIEUN-CIEUCcNIEUN-HIEUHcTIKEUT"),
  (0x3138, "cSSANGTIKEUTcRIEULcRIEUL-KIYEOKcRIEUL-MIEUMcRIEUL-PIEUPcRIEUL-SIOScRIEUL-THIEUTH"),
  (0x313F, "cRIEUL-PHIEUPHcRIEUL-HIEUHcMIEUMcPIEUPcSSANGPIEUPcPIEUP-SIOScSIOScSSANGSIOScIEUNG"),
  (0x3148, "cCIEUCcSSANGCIEUCcCHIEUCHcKHIEUKHcTHIEUTHcPHIEUPHcHIEUHcAcAEcYAcYAEcEOcEcYEOcYEcOcWA"),
  (0x3159, "cWAEcOEcYOcUcWEOcWEcWIcYUcEUcYIcIbFILLERbLETTER SSANGNIEUNcNIEUN-TIKEUTcNIEUN-SIOS"),
  (0x3168, "cNIEUN-PANSIOScRIEUL-KIYEOK-SIOScRIEUL-TIKEUTcRIEUL-PIEUP-SIOScRIEUL-PANSIOS"),
  (0x316D, "cRIEUL-YEORINHIEUHcMIEUM-PIEUPcMIEUM-SIOScMIEUM-PANSIOScKAPYEOUNMIEUMcPIEUP-KIYEOK"),
  (0x3173, "cPIEUP-TIKEUTcPIEUP-SIOS-KIYEOKcPIEUP-SIOS-TIKEUTcPIEUP-CIEUCcPIEUP-THIEUTH"),
  (0x3178, "cKAPYEOUNPIEUPcKAPYEOUNSSANGPIEUPcSIOS-KIYEOKcSIOS-NIEUNcSIOS-TIKEUTcSIOS-PIEUP"),
  (0x317E, "cSIOS-CIEUCcPANSIOScSSANGIEUNGcYESIEUNGcYESIEUNG-SIOScYESIEUNG-PANSIOS"),
  (0x3184, "cKAPYEOUNPHIEUPHcSSANGHIEUHcYEORINHIEUHcYO-YAcYO-YAEcYO-IcYU-YEOcYU-YEcYU-IcARAEA"),
  (0x318E, "cARAEAE"),
  (0x3190, "aIDEOGRAPHIC ANNOTATION LINKING MARKcREVERSEncONEncTWOncTHREEncFOURncTOPncMIDDLEn"),
  (0x3198, "cBOTTOMncFIRSTncSECONDncTHIRDncFOURTHncHEAVENncEARTHncMANnaBOPOMOFO LETTER BUcZIcJI"),
  (0x31A3, "cGUcEEcENNcOOcONNcIRcANNcINNcUNNcIMcNGGcAINNcAUNNcAMcOMcONGcINNNbFINAL LETTER PdTdKdH"),
  (0x31B8, "bLETTER GHcLHcZYbFINAL LETTER GbLETTER GWcKWcOEcAHaCJK STROKE TcWGcXGcBXGcSWcHZZcHZG"),
  (0x31C7, "cHPcHZWGcSZWGcHZTcHZZPcHPWGcHZWcHZZZcNcHcScPcSPcDcHZcHGcSZcSWZcSTcSGcPDcPZcTNcSZZcSWG"),
  (0x31E0, "cHXWGcHZZZGcPGcQ"),
  (0x31F0, "aKATAKANA LETTER SMALL KUdSIdSUdTOdNUdHAdHIdHUdHEdHOdMUdRAdRIdRUdREdRO"),
  (0x3200, "aPARENTHESIZED HANGUL KIYEOKcNIEUNcTIKEUTcRIEULcMIEUMcPIEUPcSIOScIEUNGcCIEUCcCHIEUCH"),
  (0x320A, "cKHIEUKHcTHIEUTHcPHIEUPHcHIEUHcKIYEOK AcNIEUNncTIKEUTncRIEULncMIEUMncPIEUPncSIOSn"),
  (0x3215, "cIEUNGncCIEUCncCHIEUCHncKHIEUKHncTHIEUTHncPHIEUPHncHIEUHncCIEUC U"),
  (0x321D, "bKOREAN CHARACTER OJEONdO HU"),
  (0x3220, "bIDEOGRAPH ONEcTWOcTHREEcFOURcFIVEcSIXcSEVENcEIGHTcNINEcTENcMOONcFIREcWATERcWOOD"),
  (0x322E, "cMETALcEARTHcSUNcSTOCKcHAVEcSOCIETYcNAMEcSPECIALcFINANCIALcCONGRATULATIONcLABOR"),
  (0x3239, "cREPRESENTcCALLcSTUDYcSUPERVISEcENTERPRISEcRESOURCEcALLIANCEcFESTIVALcRESTcSELFcREACH"),
  (0x3244, "aCIRCLED IDEOGRAPH QUESTIONcKINDERGARTENcSCHOOLcKOTObNUMBER TEN ON BLACK SQUARE"),
  (0x3249, "cTWENTYpcTHIRTYpcFORTYpcFIFTYpcSIXTYpcSEVENTYpcEIGHTYpaPARTNERSHIP SIGN"),
  (0x3251, "aCIRCLED NUMBER TWENTY ONEdTWOdTHREEdFOURdFIVEdSIXdSEVENdEIGHTdNINEcTHIRTYdONEdTWO"),
  (0x325D, "dTHREEdFOURdFIVEbHANGUL KIYEOKcNIEUNcTIKEUTcRIEULcMIEUMcPIEUPcSIOScIEUNGcCIEUC"),
  (0x3269, "cCHIEUCHcKHIEUKHcTHIEUTHcPHIEUPHcHIEUHcKIYEOK AcNIEUNncTIKEUTncRIEULncMIEUMncPIEUPn"),
  (0x3274, "cSIOSncIEUNGncCIEUCncCHIEUCHncKHIEUKHncTHIEUTHncPHIEUPHncHIEUHn"),
  (0x327C, "bKOREAN CHARACTER CHAMKOdJUEUIbHANGUL IEUNG UaKOREAN STANDARD SYMBOL"),
  (0x3280, "aCIRCLED IDEOGRAPH ONEcTWOcTHREEcFOURcFIVEcSIXcSEVENcEIGHTcNINEcTENcMOONcFIREcWATER"),
  (0x328D, "cWOODcMETALcEARTHcSUNcSTOCKcHAVEcSOCIETYcNAMEcSPECIALcFINANCIALcCONGRATULATIONcLABOR"),
  (0x3299, "cSECRETcMALEcFEMALEcSUITABLEcEXCELLENTcPRINTcATTENTIONcITEMcRESTcCOPYcCORRECTcHIGH"),
  (0x32A5, "cCENTREcLOWcLEFTcRIGHTcMEDICINEcRELIGIONcSTUDYcSUPERVISEcENTERPRISEcRESOURCEcALLIANCE"),
  (0x32B0, "cNIGHTbNUMBER THIRTY SIXdSEVENdEIGHTdNINEcFORTYdONEdTWOdTHREEdFOURdFIVEdSIXdSEVEN"),
  (0x32BD, "dEIGHTdNINEcFIFTYaIDEOGRAPHIC TELEGRAPH SYMBOL FOR JANUARYeFEBRUARYeMARCHeAPRILeMAY"),
  (0x32C5, "eJUNEeJULYeAUGUSTeSEPTEMBEReOCTOBEReNOVEMBEReDECEMBERaSQUARE HGbERGbEV"),
  (0x32CF, "aLIMITED LIABILITY SIGNaCIRCLED KATAKANA AcIcUcEcOcKAcKIcKUcKEcKOcSAcSIcSUcSEcSOcTA"),
  (0x32E0, "cTIcTUcTEcTOcNAcNIcNUcNEcNOcHAcHIcHUcHEcHOcMAcMIcMUcMEcMOcYAcYUcYOcRAcRIcRUcREcROcWA"),
  (0x32FC, "cWIcWEcWOaSQUARE ERA NAME REIWAbAPAATObARUHUAbANPEAbAARUbININGUbINTIbUONbESUKUUDO"),
  (0x3308, "bEEKAAbONSUbOOMUbKAIRIbKARATTObKARORIIbGARONbGANMAbGIGAbGINIIbKYURIIbGIRUDAAbKIRO"),
  (0x3315, "bKIROGURAMUbKIROMEETORUbKIROWATTObGURAMUbGURAMUTONbKURUZEIRObKUROONEbKEESUbKORUNA"),
  (0x331E, "bKOOPObSAIKURUbSANTIIMUbSIRINGUbSENTIbSENTObDAASUbDESIbDORUbTONbNANObNOTTObHAITU"),
  (0x332B, "bPAASENTObPAATUbBAARERUbPIASUTORUbPIKURUbPIKObBIRUbHUARADDObHUIITObBUSSYERUbHURAN"),
  (0x3336, "bHEKUTAARUbPESObPENIHIbHERUTUbPENSUbPEEZIbBEETAbPOINTObBORUTObHONbPONDObHOORUbHOON"),
  (0x3343, "bMAIKURObMAIRUbMAHHAbMARUKUbMANSYONbMIKURONbMIRIbMIRIBAARUbMEGAbMEGATONbMEETORUbYAADO"),
  (0x334F, "bYAARUbYUANbRITTORUbRIRAbRUPIIbRUUBURUbREMUbRENTOGENbWATTO"),
  (0x3358, "aIDEOGRAPHIC TELEGRAPH SYMBOL FOR HOUR ZEROfONEfTWOfTHREEfFOURfFIVEfSIXfSEVENfEIGHT"),
  (0x3361, "fNINEfTENfELEVENfTWELVEfTHIRTEENfFOURTEENfFIFTEENfSIXTEENfSEVENTEENfEIGHTEENfNINETEEN"),
  (0x336C, "fTWENTYfTWENTY-ONEfTWENTY-TWOfTWENTY-THREEfTWENTY-FOURaSQUARE HPAbDAbAUbBARbOVbPCbDM"),
  (0x3378, "cSQUAREDcCUBEDbIUbERA NAME HEISEIdSYOUWAdTAISYOUdMEIZIbCORPORATIONbPA AMPSbNAbMU AbMA"),
  (0x3384, "bKAbKBbMBbGBbCALbKCALbPFbNFbMU FcGbMGbKGbHZbKHZbMHZbGHZbTHZbMU LbMLbDLbKLbFMbNMbMU M"),
  (0x339C, "bMMbCMbKMbMM SQUAREDbCMnbMnbKMnbMM CUBEDbCMnbMnbKMnbM OVER SeSQUAREDbPAbKPAbMPAbGPA"),
  (0x33AD, "bRADcOVER SeSQUAREDbPSbNSbMU SbMSbPVbNVbMU VbMVbKVbMV MEGAbPWbNWbMU WbMWbKWbMW MEGA"),
  (0x33C0, "bK OHMbMnbAMbBQbCCbCDbC OVER KGbCObDBbGYbHAbHPbINbKKbKM CAPITALbKTbLMbLNbLOGbLX"),
  (0x33D4, "bMB SMALLbMILbMOLbPHbPMbPPMbPRbSRbSVbWBbV OVER MbAo"),
  (0x33E0, "aIDEOGRAPHIC TELEGRAPH SYMBOL FOR DAY ONEfTWOfTHREEfFOURfFIVEfSIXfSEVENfEIGHTfNINE"),
  (0x33E9, "fTENfELEVENfTWELVEfTHIRTEENfFOURTEENfFIFTEENfSIXTEENfSEVENTEENfEIGHTEENfNINETEEN"),
  (0x33F3, "fTWENTYfTWENTY-ONEfTWENTY-TWOfTWENTY-THREEfTWENTY-FOURfTWENTY-FIVEfTWENTY-SIX"),
  (0x33FA, "fTWENTY-SEVENfTWENTY-EIGHTfTWENTY-NINEfTHIRTYfTHIRTY-ONEaSQUARE GAL"),
  (0x4DC0, "aHEXAGRAM FOR THE CREATIVE HEAVENdRECEPTIVE EARTHcDIFFICULTY AT THE BEGINNING"),
  (0x4DC3, "cYOUTHFUL FOLLYcWAITINGcCONFLICTcTHE ARMYcHOLDING TOGETHERcSMALL TAMINGcTREADING"),
  (0x4DCA, "cPEACEcSTANDSTILLcFELLOWSHIPcGREAT POSSESSIONcMODESTYcENTHUSIASMcFOLLOWING"),
  (0x4DD1, "cWORK ON THE DECAYEDcAPPROACHcCONTEMPLATIONcBITING THROUGHcGRACEcSPLITTING APART"),
  (0x4DD7, "cRETURNcINNOCENCEcGREAT TAMINGcMOUTH CORNERScGREAT PREPONDERANCEcTHE ABYSMAL WATER"),
  (0x4DDD, "dCLINGING FIREcINFLUENCEcDURATIONcRETREATcGREAT POWERcPROGRESScDARKENING OF THE LIGHT"),
  (0x4DE4, "cTHE FAMILYcOPPOSITIONcOBSTRUCTIONcDELIVERANCEcDECREASEcINCREASEcBREAKTHROUGH"),
  (0x4DEB, "cCOMING TO MEETcGATHERING TOGETHERcPUSHING UPWARDcOPPRESSIONcTHE WELLcREVOLUTION"),
  (0x4DF1, "cTHE CAULDRONdAROUSING THUNDERdKEEPING STILL MOUNTAINcDEVELOPMENTcTHE MARRYING MAIDEN"),
  (0x4DF6, "cABUNDANCEcTHE WANDERERdGENTLE WINDdJOYOUS LAKEcDISPERSIONcLIMITATIONcINNER TRUTH"),
  (0x4DFD, "cSMALL PREPONDERANCEcAFTER COMPLETIONcBEFOREn"),
  (0xA000, "aYI SYLLABLE ITcIXcIcIPcIETcIEXcIEcIEPcATcAXcAcAPcUOXcUOcUOPcOTcOXcOcOPcEXcEcWUcBIT"),
  (0xA017, "cBIXcBIcBIPcBIETcBIEXcBIEcBIEPcBATcBAXcBAcBAPcBUOXcBUOcBUOPcBOTcBOXcBOcBOPcBEXcBEcBEP"),
  (0xA02C, "cBUTcBUXcBUcBUPcBURXcBURcBYTcBYXcBYcBYPcBYRXcBYRcPITcPIXcPIcPIPcPIEXcPIEcPIEPcPATcPAX"),
  (0xA041, "cPAcPAPcPUOXcPUOcPUOPcPOTcPOXcPOcPOPcPUTcPUXcPUcPUPcPURXcPURcPYTcPYXcPYcPYPcPYRXcPYR"),
  (0xA056, "cBBITcBBIXcBBIcBBIPcBBIETcBBIEXcBBIEcBBIEPcBBATcBBAXcBBAcBBAPcBBUOXcBBUOcBBUOPcBBOT"),
  (0xA066, "cBBOXcBBOcBBOPcBBEXcBBEcBBEPcBBUTcBBUXcBBUcBBUPcBBURXcBBURcBBYTcBBYXcBBYcBBYPcNBIT"),
  (0xA077, "cNBIXcNBIcNBIPcNBIEXcNBIEcNBIEPcNBATcNBAXcNBAcNBAPcNBOTcNBOXcNBOcNBOPcNBUTcNBUXcNBU"),
  (0xA088, "cNBUPcNBURXcNBURcNBYTcNBYXcNBYcNBYPcNBYRXcNBYRcHMITcHMIXcHMIcHMIPcHMIEXcHMIEcHMIEP"),
  (0xA098, "cHMATcHMAXcHMAcHMAPcHMUOXcHMUOcHMUOPcHMOTcHMOXcHMOcHMOPcHMUTcHMUXcHMUcHMUPcHMURXcHMUR"),
  (0xA0A9, "cHMYXcHMYcHMYPcHMYRXcHMYRcMITcMIXcMIcMIPcMIEXcMIEcMIEPcMATcMAXcMAcMAPcMUOTcMUOXcMUO"),
  (0xA0BC, "cMUOPcMOTcMOXcMOcMOPcMEXcMEcMUTcMUXcMUcMUPcMURXcMURcMYTcMYXcMYcMYPcFITcFIXcFIcFIPcFAT"),
  (0xA0D2, "cFAXcFAcFAPcFOXcFOcFOPcFUTcFUXcFUcFUPcFURXcFURcFYTcFYXcFYcFYPcVITcVIXcVIcVIPcVIET"),
  (0xA0E7, "cVIEXcVIEcVIEPcVATcVAXcVAcVAPcVOTcVOXcVOcVOPcVEXcVEPcVUTcVUXcVUcVUPcVURXcVURcVYTcVYX"),
  (0xA0FC, "cVYcVYPcVYRXcVYRcDITcDIXcDIcDIPcDIEXcDIEcDIEPcDATcDAXcDAcDAPcDUOXcDUOcDOTcDOXcDOcDOP"),
  (0xA111, "cDEXcDEcDEPcDUTcDUXcDUcDUPcDURXcDURcTITcTIXcTIcTIPcTIEXcTIEcTIEPcTATcTAXcTAcTAPcTUOT"),
  (0xA126, "cTUOXcTUOcTUOPcTOTcTOXcTOcTOPcTEXcTEcTEPcTUTcTUXcTUcTUPcTURXcTURcDDITcDDIXcDDIcDDIP"),
  (0xA13A, "cDDIEXcDDIEcDDIEPcDDATcDDAXcDDAcDDAPcDDUOXcDDUOcDDUOPcDDOTcDDOXcDDOcDDOPcDDEXcDDE"),
  (0xA14A, "cDDEPcDDUTcDDUXcDDUcDDUPcDDURXcDDURcNDITcNDIXcNDIcNDIPcNDIEXcNDIEcNDATcNDAXcNDAcNDAP"),
  (0xA15B, "cNDOTcNDOXcNDOcNDOPcNDEXcNDEcNDEPcNDUTcNDUXcNDUcNDUPcNDURXcNDURcHNITcHNIXcHNIcHNIP"),
  (0xA16C, "cHNIETcHNIEXcHNIEcHNIEPcHNATcHNAXcHNAcHNAPcHNUOXcHNUOcHNOTcHNOXcHNOPcHNEXcHNEcHNEP"),
  (0xA17C, "cHNUTcNITcNIXcNIcNIPcNIEXcNIEcNIEPcNAXcNAcNAPcNUOXcNUOcNUOPcNOTcNOXcNOcNOPcNEXcNEcNEP"),
  (0xA191, "cNUTcNUXcNUcNUPcNURXcNURcHLITcHLIXcHLIcHLIPcHLIEXcHLIEcHLIEPcHLATcHLAXcHLAcHLAPcHLUOX"),
  (0xA1A3, "cHLUOcHLUOPcHLOXcHLOcHLOPcHLEXcHLEcHLEPcHLUTcHLUXcHLUcHLUPcHLURXcHLURcHLYTcHLYXcHLY"),
  (0xA1B4, "cHLYPcHLYRXcHLYRcLITcLIXcLIcLIPcLIETcLIEXcLIEcLIEPcLATcLAXcLAcLAPcLUOTcLUOXcLUOcLUOP"),
  (0xA1C7, "cLOTcLOXcLOcLOPcLEXcLEcLEPcLUTcLUXcLUcLUPcLURXcLURcLYTcLYXcLYcLYPcLYRXcLYRcGITcGIXcGI"),
  (0xA1DD, "cGIPcGIETcGIEXcGIEcGIEPcGATcGAXcGAcGAPcGUOTcGUOXcGUOcGUOPcGOTcGOXcGOcGOPcGETcGEXcGE"),
  (0xA1F1, "cGEPcGUTcGUXcGUcGUPcGURXcGURcKITcKIXcKIcKIPcKIEXcKIEcKIEPcKATcKAXcKAcKAPcKUOXcKUO"),
  (0xA205, "cKUOPcKOTcKOXcKOcKOPcKETcKEXcKEcKEPcKUTcKUXcKUcKUPcKURXcKURcGGITcGGIXcGGIcGGIEXcGGIE"),
  (0xA219, "cGGIEPcGGATcGGAXcGGAcGGAPcGGUOTcGGUOXcGGUOcGGUOPcGGOTcGGOXcGGOcGGOPcGGETcGGEXcGGE"),
  (0xA229, "cGGEPcGGUTcGGUXcGGUcGGUPcGGURXcGGURcMGIEXcMGIEcMGATcMGAXcMGAcMGAPcMGUOXcMGUOcMGUOP"),
  (0xA239, "cMGOTcMGOXcMGOcMGOPcMGEXcMGEcMGEPcMGUTcMGUXcMGUcMGUPcMGURXcMGURcHXITcHXIXcHXIcHXIP"),
  (0xA24A, "cHXIETcHXIEXcHXIEcHXIEPcHXATcHXAXcHXAcHXAPcHXUOTcHXUOXcHXUOcHXUOPcHXOTcHXOXcHXOcHXOP"),
  (0xA25A, "cHXEXcHXEcHXEPcNGIEXcNGIEcNGIEPcNGATcNGAXcNGAcNGAPcNGUOTcNGUOXcNGUOcNGOTcNGOXcNGO"),
  (0xA26A, "cNGOPcNGEXcNGEcNGEPcHITcHIEXcHIEcHATcHAXcHAcHAPcHUOTcHUOXcHUOcHUOPcHOTcHOXcHOcHOPcHEX"),
  (0xA27E, "cHEcHEPcWATcWAXcWAcWAPcWUOXcWUOcWUOPcWOXcWOcWOPcWEXcWEcWEPcZITcZIXcZIcZIPcZIEXcZIE"),
  (0xA293, "cZIEPcZATcZAXcZAcZAPcZUOXcZUOcZUOPcZOTcZOXcZOcZOPcZEXcZEcZEPcZUTcZUXcZUcZUPcZURXcZUR"),
  (0xA2A8, "cZYTcZYXcZYcZYPcZYRXcZYRcCITcCIXcCIcCIPcCIETcCIEXcCIEcCIEPcCATcCAXcCAcCAPcCUOXcCUO"),
  (0xA2BC, "cCUOPcCOTcCOXcCOcCOPcCEXcCEcCEPcCUTcCUXcCUcCUPcCURXcCURcCYTcCYXcCYcCYPcCYRXcCYRcZZIT"),
  (0xA2D1, "cZZIXcZZIcZZIPcZZIETcZZIEXcZZIEcZZIEPcZZATcZZAXcZZAcZZAPcZZOXcZZOcZZOPcZZEXcZZEcZZEP"),
  (0xA2E2, "cZZUXcZZUcZZUPcZZURXcZZURcZZYTcZZYXcZZYcZZYPcZZYRXcZZYRcNZITcNZIXcNZIcNZIPcNZIEXcNZIE"),
  (0xA2F3, "cNZIEPcNZATcNZAXcNZAcNZAPcNZUOXcNZUOcNZOXcNZOPcNZEXcNZEcNZUXcNZUcNZUPcNZURXcNZURcNZYT"),
  (0xA304, "cNZYXcNZYcNZYPcNZYRXcNZYRcSITcSIXcSIcSIPcSIEXcSIEcSIEPcSATcSAXcSAcSAPcSUOXcSUOcSUOP"),
  (0xA317, "cSOTcSOXcSOcSOPcSEXcSEcSEPcSUTcSUXcSUcSUPcSURXcSURcSYTcSYXcSYcSYPcSYRXcSYRcSSITcSSIX"),
  (0xA32C, "cSSIcSSIPcSSIEXcSSIEcSSIEPcSSATcSSAXcSSAcSSAPcSSOTcSSOXcSSOcSSOPcSSEXcSSEcSSEPcSSUT"),
  (0xA33D, "cSSUXcSSUcSSUPcSSYTcSSYXcSSYcSSYPcSSYRXcSSYRcZHATcZHAXcZHAcZHAPcZHUOXcZHUOcZHUOPcZHOT"),
  (0xA34E, "cZHOXcZHOcZHOPcZHETcZHEXcZHEcZHEPcZHUTcZHUXcZHUcZHUPcZHURXcZHURcZHYTcZHYXcZHYcZHYP"),
  (0xA35F, "cZHYRXcZHYRcCHATcCHAXcCHAcCHAPcCHUOTcCHUOXcCHUOcCHUOPcCHOTcCHOXcCHOcCHOPcCHETcCHEX"),
  (0xA36F, "cCHEcCHEPcCHUXcCHUcCHUPcCHURXcCHURcCHYTcCHYXcCHYcCHYPcCHYRXcCHYRcRRAXcRRAcRRUOXcRRUO"),
  (0xA380, "cRROTcRROXcRROcRROPcRRETcRREXcRREcRREPcRRUTcRRUXcRRUcRRUPcRRURXcRRURcRRYTcRRYXcRRY"),
  (0xA391, "cRRYPcRRYRXcRRYRcNRATcNRAXcNRAcNRAPcNROXcNROcNROPcNRETcNREXcNREcNREPcNRUTcNRUXcNRU"),
  (0xA3A2, "cNRUPcNRURXcNRURcNRYTcNRYXcNRYcNRYPcNRYRXcNRYRcSHATcSHAXcSHAcSHAPcSHUOXcSHUOcSHUOP"),
  (0xA3B2, "cSHOTcSHOXcSHOcSHOPcSHETcSHEXcSHEcSHEPcSHUTcSHUXcSHUcSHUPcSHURXcSHURcSHYTcSHYXcSHY"),
  (0xA3C3, "cSHYPcSHYRXcSHYRcRATcRAXcRAcRAPcRUOXcRUOcRUOPcROTcROXcROcROPcREXcREcREPcRUTcRUXcRU"),
  (0xA3D7, "cRUPcRURXcRURcRYTcRYXcRYcRYPcRYRXcRYRcJITcJIXcJIcJIPcJIETcJIEXcJIEcJIEPcJUOTcJUOXcJUO"),
  (0xA3EB, "cJUOPcJOTcJOXcJOcJOPcJUTcJUXcJUcJUPcJURXcJURcJYTcJYXcJYcJYPcJYRXcJYRcQITcQIXcQIcQIP"),
  (0xA400, "cQIETcQIEXcQIEcQIEPcQUOTcQUOXcQUOcQUOPcQOTcQOXcQOcQOPcQUTcQUXcQUcQUPcQURXcQURcQYTcQYX"),
  (0xA414, "cQYcQYPcQYRXcQYRcJJITcJJIXcJJIcJJIPcJJIETcJJIEXcJJIEcJJIEPcJJUOXcJJUOcJJUOPcJJOTcJJOX"),
  (0xA425, "cJJOcJJOPcJJUTcJJUXcJJUcJJUPcJJURXcJJURcJJYTcJJYXcJJYcJJYPcNJITcNJIXcNJIcNJIPcNJIET"),
  (0xA436, "cNJIEXcNJIEcNJIEPcNJUOXcNJUOcNJOTcNJOXcNJOcNJOPcNJUXcNJUcNJUPcNJURXcNJURcNJYTcNJYX"),
  (0xA446, "cNJYcNJYPcNJYRXcNJYRcNYITcNYIXcNYIcNYIPcNYIETcNYIEXcNYIEcNYIEPcNYUOXcNYUOcNYUOPcNYOT"),
  (0xA456, "cNYOXcNYOcNYOPcNYUTcNYUXcNYUcNYUPcXITcXIXcXIcXIPcXIETcXIEXcXIEcXIEPcXUOXcXUOcXOTcXOX"),
  (0xA469, "cXOcXOPcXYTcXYXcXYcXYPcXYRXcXYRcYITcYIXcYIcYIPcYIETcYIEXcYIEcYIEPcYUOTcYUOXcYUOcYUOP"),
  (0xA47D, "cYOTcYOXcYOcYOPcYUTcYUXcYUcYUPcYURXcYURcYYTcYYXcYYcYYPcYYRXcYYR"),
  (0xA490, "bRADICAL QOTcLIcKITcNYIPcCYPcSSIcGGOPcGEPcMIcHXITcLYRcBBUTcMOPcYOcPUTcHXUOcTATcGAcZUP"),
  (0xA4A3, "cCYTcDDURcBURcGGUOcNYOPcTUcOPcJJUTcZOTcPYTcHMOcYITcVURcSHYcVEPcZAcJOcNZUPcJJYcGOT"),
  (0xA4B7, "cJJIEcWOcDUcSHURcLIEcCYcCUOPcCIPcHXOPcSHATcZURcSHOPcCHEcZZIETcNBIEcKE"),
  (0xA4D0, "aLISU LETTER BAcPAcPHAcDAcTAcTHAcGAcKAcKHAcJAcCAcCHAcDZAcTSAcTSHAcMAcNAcLAcSAcZHAcZA"),
  (0xA4E5, "cNGAcHAcXAcHHAcFAcWAcSHAcYAcGHAcAcAEcEcEUcIcOcUcUEcUHcOEcTONE MYA TIdNA POdMYA CYAeBO"),
  (0xA4FC, "eNAeJEUbPUNCTUATION COMMAcFULL STOPaVAI SYLLABLE EEcEENcHEEcWEEcWEENcPEEcBHEEcBEE"),
  (0xA508, "cMBEEcKPEEcMGBEEcGBEEcFEEcVEEcTEEcTHEEcDHEEcDHHEEcLEEcREEcDEEcNDEEcSEEcSHEEcZEEcZHEE"),
  (0xA51A, "cCEEcJEEcNJEEcYEEcKEEcNGGEEcGEEcMEEcNEEcNYEEcIcINcHIcHINcWIcWINcPIcBHIcBIcMBIcKPI"),
  (0xA52F, "cMGBIcGBIcFIcVIcTIcTHIcDHIcDHHIcLIcRIcDIcNDIcSIcSHIcZIcZHIcCIcJIcNJIcYIcKIcNGGIcGIcMI"),
  (0xA547, "cNIcNYIcAcANcNGANcHAcHANcWAcWANcPAcBHAcBAcMBAcKPAcKPANcMGBAcGBAcFAcVAcTAcTHAcDHAcDHHA"),
  (0xA55E, "cLAcRAcDAcNDAcSAcSHAcZAcZHAcCAcJAcNJAcYAcKAcKANcNGGAcGAcMAcNAcNYAcOOcOONcHOOcWOOcWOON"),
  (0xA576, "cPOOcBHOOcBOOcMBOOcKPOOcMGBOOcGBOOcFOOcVOOcTOOcTHOOcDHOOcDHHOOcLOOcROOcDOOcNDOOcSOO"),
  (0xA588, "cSHOOcZOOcZHOOcCOOcJOOcNJOOcYOOcKOOcNGGOOcGOOcMOOcNOOcNYOOcUcUNcHUcHUNcWUcWUNcPUcBHU"),
  (0xA59D, "cBUcMBUcKPUcMGBUcGBUcFUcVUcTUcTHUcDHUcDHHUcLUcRUcDUcNDUcSUcSHUcZUcZHUcCUcJUcNJUcYUcKU"),
  (0xA5B5, "cNGGUcGUcMUcNUcNYUcOcONcNGONcHOcHONcWOcWONcPOcBHOcBOcMBOcKPOcMGBOcGBOcGBONcFOcVOcTO"),
  (0xA5CC, "cTHOcDHOcDHHOcLOcROcDOcNDOcSOcSHOcZOcZHOcCOcJOcNJOcYOcKOcNGGOcGOcMOcNOcNYOcEcENcNGEN"),
  (0xA5E4, "cHEcHENcWEcWENcPEcBHEcBEcMBEcKPEcKPENcMGBEcGBEcGBENcFEcVEcTEcTHEcDHEcDHHEcLEcREcDE"),
  (0xA5FA, "cNDEcSEcSHEcZEcZHEcCEcJEcNJEcYEcKEcNGGEcNGGENcGEcGENcMEcNEcNYEcNGcLENGTHENERbCOMMA"),
  (0xA60E, "bFULL STOPbQUESTION MARKbSYLLABLE NDOLE FAdKAdSOObSYMBOL FEENGcKEENGcTINGcNIIcBANG"),
  (0xA618, "cFAAcTAAcDANGcDOONGcKUNGcTONGcDO-OcJONGbDIGIT ZEROcONEcTWOcTHREEcFOURcFIVEcSIXcSEVEN"),
  (0xA628, "cEIGHTcNINEbSYLLABLE NDOLE MAdDO"),
  (0xA640, "aCYRILLIC CAPITAL LETTER ZEMLYAbSMALLobCAPITAL LETTER DZELObSMALLo"),
  (0xA644, "bCAPITAL LETTER REVERSED DZEbSMALLpbCAPITAL LETTER IOTAbSMALLobCAPITAL LETTER DJERV"),
  (0xA649, "bSMALLobCAPITAL LETTER MONOGRAPH UKbSMALLpbCAPITAL LETTER BROAD OMEGAbSMALLp"),
  (0xA64E, "bCAPITAL LETTER NEUTRAL YERbSMALLpbCAPITAL LETTER YERU WITH BACKnbSMALLr"),
  (0xA652, "bCAPITAL LETTER IOTIFIED YATbSMALLpbCAPITAL LETTER REVERSED YUbSMALLp"),
  (0xA656, "bCAPITAL LETTER IOTIFIED AbSMALLpbCAPITAL LETTER CLOSED LITTLE YUSbSMALLq"),
  (0xA65A, "bCAPITAL LETTER BLENDEDnbSMALLpbCAPITAL LETTER IOTIFIED CLOSED LITTLEnbSMALLr"),
  (0xA65E, "bCAPITAL LETTER YNbSMALLobCAPITAL LETTER REVERSED TSEbSMALLpbCAPITAL LETTER SOFT DE"),
  (0xA663, "bSMALLpbCAPITAL LETTER SOFT ELbSMALLpbCAPITAL LETTER SOFT EMbSMALLp"),
  (0xA668, "bCAPITAL LETTER MONOCULAR ObSMALLpbCAPITAL LETTER BINOCULARnbSMALLp"),
  (0xA66C, "bCAPITAL LETTER DOUBLE MONOCULARnbSMALLqbLETTER MULTIOCULARnaCOMBINING CYRILLIC VZMET"),
  (0xA670, "cTEN MILLIONS SIGNcHUNDREDocTHOUSANDoaSLAVONIC ASTERISK"),
  (0xA674, "aCOMBINING CYRILLIC LETTER UKRAINIAN IEdIdYIdUdHARD SIGNdYERUdSOFT SIGNdOMEGAcKAVYKA"),
  (0xA67D, "cPAYEROKaCYRILLIC KAVYKAbPAYEROKbCAPITAL LETTER DWEbSMALLobCAPITAL LETTER DZWEbSMALLo"),
  (0xA684, "bCAPITAL LETTER ZHWEbSMALLobCAPITAL LETTER CCHEbSMALLobCAPITAL LETTER DZZEbSMALLo"),
  (0xA68A, "bCAPITAL LETTER TE WITH MIDDLE HOOKbSMALLrbCAPITAL LETTER TWEbSMALLo"),
  (0xA68E, "bCAPITAL LETTER TSWEbSMALLobCAPITAL LETTER TSSEbSMALLobCAPITAL LETTER TCHEbSMALLo"),
  (0xA694, "bCAPITAL LETTER HWEbSMALLobCAPITAL LETTER SHWEbSMALLobCAPITAL LETTER DOUBLE ObSMALLp"),
  (0xA69A, "bCAPITAL LETTER CROSSEDnbSMALLpaMODIFIER LETTER CYRILLIC HARD SIGNdSOFTn"),
  (0xA69E, "aCOMBINING CYRILLIC LETTER EFdIOTIFIED EaBAMUM LETTER AcKAcUcKUcEEcREEcTAEcOcNYIcIcLA"),
  (0xA6AB, "cPAcRIIcRIEEcLEEEEcMEEEEcTAAcNDAAcNJAEMcMcSUUcMUcSHIIcSIcSHEUXcSEUXcKYEEcKETcNUAEcNU"),
  (0xA6BE, "cNJUAEcYOQcSHUcYUQcYAcNSHAcKEUXcPEUXcNJEEcNTEEcPUEcWUEcPEEcFEEcRUcLUcMIcNIcREUXcRAE"),
  (0xA6D2, "cKENcNGKWAENcNGGAcNGAcSHOcPUAEcFUcFOMcWAcNAcLIcPIcLOQcKOcMBENcRENcMENcMAcTIcKIcMO"),
  (0xA6E7, "cMBAAcTETcKPAcTENcNTUUcSAMBAcFAAMAEcKOVUUcKOGHOMbCOMBINING MARK KOQNDONdTUKWENTIS"),
  (0xA6F2, "bNJAEMLIbFULL STOPbCOLONbCOMMAbSEMICOLONbQUESTION MARK"),
  (0xA700, "aMODIFIER LETTER CHINESE TONE YIN PINGeYANGneYIN SHANGeYANGneYIN QUeYANGneYIN RU"),
  (0xA707, "eYANGncEXTRA-HIGH DOTTED TONE BARcHIGHpcMIDpcLOWpcEXTRA-LOWp"),
  (0xA70D, "cEXTRA-HIGH DOTTED LEFT-STEMocHIGHqcMIDqcLOWqcEXTRA-LOWqcEXTRA-HIGHpcHIGHpcMIDpcLOWp"),
  (0xA716, "cEXTRA-LOWpcDOT VERTICALndSLASHdHORIZONTAL BARcLOWER RIGHT CORNER ANGLE"),
  (0xA71B, "cRAISED UP ARROWdDOWNndEXCLAMATION MARKdINVERTEDocLOWpcSTRESS AND HIGH TONEeLOWn"),
  (0xA722, "aLATIN CAPITAL LETTER EGYPTOLOGICAL ALEFbSMALLpbCAPITAL LETTER EGYPTOLOGICAL AIN"),
  (0xA725, "bSMALLpbCAPITAL LETTER HENGbSMALLobCAPITAL LETTER TZbSMALLobCAPITAL LETTER TRESILLO"),
  (0xA72B, "bSMALLobCAPITAL LETTER CUATRILLObSMALLobCAPITAL LETTER CUATRILLO WITH COMMAbSMALLq"),
  (0xA730, "bLETTER SMALL CAPITAL FeSbCAPITAL LETTER AAbSMALLobCAPITAL LETTER AObSMALLo"),
  (0xA736, "bCAPITAL LETTER AUbSMALLobCAPITAL LETTER AVbSMALLo"),
  (0xA73A, "bCAPITAL LETTER AV WITH HORIZONTAL BARbSMALLrbCAPITAL LETTER AYbSMALLo"),
  (0xA73E, "bCAPITAL LETTER REVERSED C WITH DOTbSMALLrbCAPITAL LETTER K WITH STROKEbSMALLq"),
  (0xA742, "bCAPITAL LETTER K WITH DIAGONALnbSMALLrbCAPITAL LETTER K WITH STROKE ANDobSMALLt"),
  (0xA746, "bCAPITAL LETTER BROKEN LbSMALLpbCAPITAL LETTER L WITH HIGH STROKEbSMALLr"),
  (0xA74A, "bCAPITAL LETTER O WITH LONG STROKE OVERLAYbSMALLsbCAPITAL LETTER O WITH LOOPbSMALLq"),
  (0xA74E, "bCAPITAL LETTER OObSMALLobCAPITAL LETTER P WITH STROKE THROUGH DESCENDERbSMALLs"),
  (0xA752, "bCAPITAL LETTER P WITH FLOURISHbSMALLqbCAPITAL LETTER P WITH SQUIRREL TAILbSMALLr"),
  (0xA756, "bCAPITAL LETTER Q WITH STROKE THROUGH DESCENDERbSMALLs"),
  (0xA758, "bCAPITAL LETTER Q WITH DIAGONAL STROKEbSMALLrbCAPITAL LETTER R ROTUNDAbSMALLp"),
  (0xA75C, "bCAPITAL LETTER RUMnbSMALLpbCAPITAL LETTER V WITH DIAGONAL STROKEbSMALLr"),
  (0xA760, "bCAPITAL LETTER VYbSMALLobCAPITAL LETTER VISIGOTHIC ZbSMALLp"),
  (0xA764, "bCAPITAL LETTER THORN WITH STROKEbSMALLq"),
  (0xA766, "bCAPITAL LETTER THORN WITH STROKE THROUGH DESCENDERbSMALLsbCAPITAL LETTER VENDbSMALLo"),
  (0xA76A, "bCAPITAL LETTER ETbSMALLobCAPITAL LETTER ISbSMALLobCAPITAL LETTER CONbSMALLo"),
  (0xA770, "aMODIFIER LETTER USaLATIN SMALL LETTER DUMdLUMdMUMdNUMdRUMbLETTER SMALL CAPITALn"),
  (0xA777, "bSMALL LETTER TUMdUMbCAPITAL LETTER INSULAR DbSMALLpbCAPITAL LETTER INSULAR FbSMALLp"),
  (0xA77D, "bCAPITAL LETTER INSULAR GdTURNEDobSMALLqbCAPITAL LETTER TURNED LbSMALLp"),
  (0xA782, "bCAPITAL LETTER INSULAR RbSMALLpbCAPITAL LETTER INSULAR SbSMALLp"),
  (0xA786, "bCAPITAL LETTER INSULAR TbSMALLpaMODIFIER LETTER LOW CIRCUMFLEX ACCENTcCOLON"),
  (0xA78A, "cSHORT EQUALS SIGNaLATIN CAPITAL LETTER SALTILLObSMALLobCAPITAL LETTER TURNED H"),
  (0xA78E, "bSMALL LETTER L WITH RETROFLEX HOOK AND BELTbLETTER SINOLOGICAL DOT"),
  (0xA790, "bCAPITAL LETTER N WITH DESCENDERbSMALLqbCAPITAL LETTER C WITH BARbSMALLqfPALATAL HOOK"),
  (0xA795, "dHpbCAPITAL LETTER B WITH FLOURISHbSMALLqbCAPITAL LETTER F WITH STROKEbSMALLq"),
  (0xA79A, "bCAPITAL LETTER VOLAPUK AEbSMALLpbCAPITAL LETTER VOLAPUK OEbSMALLp"),
  (0xA79E, "bCAPITAL LETTER VOLAPUK UEbSMALLpbCAPITAL LETTER G WITH OBLIQUE STROKEbSMALLr"),
  (0xA7A2, "bCAPITAL LETTER KpbSMALLrbCAPITAL LETTER NpbSMALLrbCAPITAL LETTER RpbSMALLr"),
  (0xA7A8, "bCAPITAL LETTER SpbSMALLrbCAPITAL LETTER H WITH HOOKdREVERSED OPEN EdSCRIPT G"),
  (0xA7AD, "dL WITH BELTdSMALL CAPITAL IbLETTER SMALL CAPITAL QbCAPITAL LETTER TURNED KeT"),
  (0xA7B2, "dJ WITH CROSSED-TAILdCHIdBETAbSMALLobCAPITAL LETTER OMEGAbSMALLo"),
  (0xA7B8, "bCAPITAL LETTER U WITH STROKEbSMALLqbCAPITAL LETTER GLOTTAL AbSMALLp"),
  (0xA7BC, "bCAPITAL LETTER GLOTTAL IbSMALLpbCAPITAL LETTER GLOTTAL UbSMALLp"),
  (0xA7C0, "bCAPITAL LETTER OLD POLISH ObSMALLqbCAPITAL LETTER ANGLICANA WbSMALLp"),
  (0xA7C4, "bCAPITAL LETTER C WITH PALATAL HOOKdS WITHndZ WITH PALATALn"),
  (0xA7C7, "dD WITH SHORT STROKE OVERLAYbSMALLsbCAPITAL LETTER SqbSMALLs"),
  (0xA7D0, "bCAPITAL LETTER CLOSED INSULAR GbSMALLq"),
  (0xA7D3, "dDOUBLE THORN"),
  (0xA7D5, "eWYNNbCAPITAL LETTER MIDDLE SCOTS SbSMALLqbCAPITAL LETTER SIGMOIDnbSMALLp"),
  (0xA7F2, "aMODIFIER LETTER CAPITAL CdFdQaLATIN CAPITAL LETTER REVERSED HALF HbSMALLq"),
  (0xA7F7, "bEPIGRAPHIC LETTER SIDEWAYS IaMODIFIER LETTER CAPITAL H WITH STROKEcSMALL LIGATURE OE"),
  (0xA7FA, "aLATIN LETTER SMALL CAPITAL TURNED MbEPIGRAPHIC LETTER REVERSED FePdINVERTED M"),
  (0xA7FE, "dI LONGAdARCHAIC MaSYLOTI NAGRI LETTER AdIcSIGN DVISVARAcLETTER UdEdOcSIGN HASANTA"),
  (0xA807, "cLETTER KOdKHOdGOdGHOcSIGN ANUSVARAcLETTER COdCHOdJOdJHOdTTOdTTHOdDDOdDDHOdTOdTHOdDO"),
  (0xA817, "dDHOdNOdPOdPHOdBOdBHOdMOdROdLOdRROdSOdHOcVOWEL SIGN AeIeUeEeOOcPOETRY MARK-1dMARK-2"),
  (0xA82A, "dMARK-3dMARK-4cSIGN ALTERNATE HASANTA"),
  (0xA830, "aNORTH INDIC FRACTION ONE QUARTEReHALFdTHREE QUARTERSdONE SIXTEENTHeEIGHTH"),
  (0xA835, "dTHREE SIXTEENTHScQUARTER MARKcPLACEHOLDERncRUPEEncQUANTITYn"),
  (0xA840, "aPHAGS-PA LETTER KAcKHAcGAcNGAcCAcCHAcJAcNYAcTAcTHAcDAcNAcPAcPHAcBAcMAcTSAcTSHAcDZA"),
  (0xA853, "cWAcZHAcZAcSMALL AcYAcRAcLAcSHAcSAcHAcAcIcUcEcOcQAcXAcFAcGGAcEEbSUBJOINED LETTER WA"),
  (0xA868, "dYAbLETTER TTAcTTHAcDDAcNNAcALTERNATE YAcVOICELESS SHAcVOICED HAcASPIRATED FA"),
  (0xA871, "bSUBJOINED LETTER RAbSUPERFIXEDobLETTER CANDRABINDUbSINGLE HEAD MARKbDOUBLEo"),
  (0xA876, "bMARK SHADcDOUBLEn"),
  (0xA880, "aSAURASHTRA SIGN ANUSVARAcVISARGAbLETTER AcAAcIcIIcUcUUcVOCALIC RdRRdLdLLcEcEEcAIcO"),
  (0xA890, "cOOcAUcKAcKHAcGAcGHAcNGAcCAcCHAcJAcJHAcNYAcTTAcTTHAcDDAcDDHAcNNAcTAcTHAcDAcDHAcNAcPA"),
  (0xA8A7, "cPHAcBAcBHAcMAcYAcRAcLAcVAcSHAcSSAcSAcHAcLLAbCONSONANT SIGN HAARUbVOWEL SIGN AAdIdII"),
  (0xA8B8, "dUdUUdVOCALIC ReRReLeLLdEdEEdAIdOdOOdAUbSIGN VIRAMAcCANDRABINDU"),
  (0xA8CE, "bDANDAbDOUBLEnbDIGIT ZEROcONEcTWOcTHREEcFOURcFIVEcSIXcSEVENcEIGHTcNINE"),
  (0xA8E0, "aCOMBINING DEVANAGARI DIGIT ZEROdONEdTWOdTHREEdFOURdFIVEdSIXdSEVENdEIGHTdNINE"),
  (0xA8EA, "cLETTER AdUdKAdNAdPAdRAdVIcSIGN AVAGRAHAaDEVANAGARI SIGN SPACING CANDRABINDU"),
  (0xA8F3, "cCANDRABINDU VIRAMAcDOUBLEocCANDRABINDU TWOdTHREEdAVAGRAHAcPUSHPIKAbGAP FILLERbCARET"),
  (0xA8FB, "bHEADSTROKEbSIGN SIDDHAMbJAIN OMbLETTER AYbVOWEL SIGNnaKAYAH LI DIGIT ZEROdONEdTWO"),
  (0xA903, "dTHREEdFOURdFIVEdSIXdSEVENdEIGHTdNINEcLETTER KAdKHAdGAdNGAdSAdSHAdZAdNYAdTAdHTAdNAdPA"),
  (0xA916, "dPHAdMAdDAdBAdRAdYAdLAdWAdTHAdHAdVAdCAdAdOEdIdOOcVOWEL UEdEdUdEEdOcTONE PLOPHUdCALYA"),
  (0xA92D, "ePLOPHUcSIGN CWIdSHYAaREJANG LETTER KAcGAcNGAcTAcDAcNAcPAcBAcMAcCAcJAcNYAcSAcRAcLAcYA"),
  (0xA940, "cWAcHAcMBAcNGGAcNDAcNYJAcAbVOWEL SIGN IdUdEdAIdOdAUdEUdEAbCONSONANT SIGN NGdNdRdH"),
  (0xA953, "bVIRAMA"),
  (0xA95F, "bSECTION MARKaHANGUL CHOSEONG TIKEUT-MIEUMcTIKEUT-PIEUPcTIKEUT-SIOScTIKEUT-CIEUC"),
  (0xA964, "cRIEUL-KIYEOKcRIEUL-SSANGKIYEOKcRIEUL-TIKEUTcRIEUL-SSANGTIKEUTcRIEUL-MIEUM"),
  (0xA969, "cRIEUL-PIEUPcRIEUL-SSANGPIEUPcRIEUL-KAPYEOUNPIEUPcRIEUL-SIOScRIEUL-CIEUC"),
  (0xA96E, "cRIEUL-KHIEUKHcMIEUM-KIYEOKcMIEUM-TIKEUTcMIEUM-SIOScPIEUP-SIOS-THIEUTHcPIEUP-KHIEUKH"),
  (0xA974, "cPIEUP-HIEUHcSSANGSIOS-PIEUPcIEUNG-RIEULcIEUNG-HIEUHcSSANGCIEUC-HIEUHcSSANGTHIEUTH"),
  (0xA97A, "cPHIEUPH-HIEUHcHIEUH-SIOScSSANGYEORINHIEUH"),
  (0xA980, "aJAVANESE SIGN PANYANGGAcCECAKcLAYARcWIGNYANbLETTER AcI KAWIdcIIcUcPA CEREKcNGA LELET"),
  (0xA98B, "eRASWADIcEcAIcOcKAdSASAKdMURDAcGAdMURDAcNGAcCAdMURDAcJAcNYA MURDAcJA MAHAPRANAcNYA"),
  (0xA99B, "cTTAdMAHAPRANAcDDAdMAHAPRANAcNA MURDAcTAdMURDAcDAdMAHAPRANAcNAcPAdMURDAcBAdMURDAcMA"),
  (0xA9AA, "cYAcRAdAGUNGcLAcWAcSA MURDAdMAHAPRANAdcHAbSIGN CECAK TELUbVOWEL SIGN TARUNGdTOLONG"),
  (0xA9B6, "dWULUeMELIKdSUKUeMENDUTdTALINGdDIRGA MUREdPEPETbCONSONANT SIGN KERETdPENGKALdCAKRA"),
  (0xA9C0, "bPANGKONbLEFT RERENGGANbRIGHTnbPADA ANDAPcMADYAcLUHURcWINDUcPANGKATcLINGSAcLUNGSI"),
  (0xA9CA, "cADEGdADEGcPISELEHbTURNEDo"),
  (0xA9CF, "bPANGRANGKEPbDIGIT ZEROcONEcTWOcTHREEcFOURcFIVEcSIXcSEVENcEIGHTcNINE"),
  (0xA9DE, "bPADA TIRTA TUMETEScISEN-ISENaMYANMAR LETTER SHAN GHAdCHAdJHAdNNAdBHAbSIGN SHAN SAW"),
  (0xA9E6, "bMODIFIER LETTER SHAN REDUPLICATIONbLETTER TAI LAING NYAeFAeGAeGHAeJAeJHAeDDAeDDHA"),
  (0xA9EF, "eNNAbTAI LAING DIGIT ZEROeONEeTWOeTHREEeFOUReFIVEeSIXeSEVENeEIGHTeNINE"),
  (0xA9FA, "bLETTER TAI LAING LLAeDAeDHAeBAeBHA"),
  (0xAA00, "aCHAM LETTER AcIcUcEcAIcOcKAcKHAcGAcGHAcNGUEcNGAcCHAcCHHAcJAcJHAcNHUEcNHAcNHJAcTAcTHA"),
  (0xAA15, "cDAcDHAcNUEcNAcDDAcPAcPPAcPHAcBAcBHAcMUEcMAcBBAcYAcRAcLAcVAcSSAcSAcHAbVOWEL SIGN AAdI"),
  (0xAA2B, "dIIdEIdUdOEdOdAIdAUdUEbCONSONANT SIGN YAdRAdLAdWA"),
  (0xAA40, "bLETTER FINAL KdGdNGbCONSONANT SIGNobLETTER FINAL CHdTdNdPdYdRdLdSS"),
  (0xAA4C, "bCONSONANT SIGN FINAL MeH"),
  (0xAA50, "bDIGIT ZEROcONEcTWOcTHREEcFOURcFIVEcSIXcSEVENcEIGHTcNINE"),
  (0xAA5C, "bPUNCTUATION SPIRALcDANDAcDOUBLEncTRIPLEnaMYANMAR LETTER KHAMTI GAdCAdCHAdJAdJHAdNYA"),
  (0xAA66, "dTTAdTTHAdDDAdDDHAdDHAdNAdSAdHAdHHAdFAbMODIFIER LETTER KHAMTI REDUPLICATION"),
  (0xAA71, "bLETTER KHAMTI XAdZAdRAbLOGOGRAM KHAMTI OAYdQNdHMbSYMBOL AITON EXCLAMATIONdONEdTWO"),
  (0xAA7A, "bLETTER AITON RAbSIGN PAO KAREN TONEcTAI LAING TONE-2eTONE-5bLETTER SHWE PALAUNG CHA"),
  (0xAA7F, "eSHAaTAI VIET LETTER LOW KOdHIGHndLOW KHOdHIGHndLOW KHHOdHIGHndLOW GOdHIGHndLOW NGO"),
  (0xAA89, "dHIGHndLOW COdHIGHndLOW CHOdHIGHndLOW SOdHIGHndLOW NYOdHIGHndLOW DOdHIGHndLOW TO"),
  (0xAA95, "dHIGHndLOW THOdHIGHndLOW NOdHIGHndLOW BOdHIGHndLOW POdHIGHndLOW PHOdHIGHndLOW FO"),
  (0xAAA1, "dHIGHndLOW MOdHIGHndLOW YOdHIGHndLOW ROdHIGHndLOW LOdHIGHndLOW VOdHIGHndLOW HOdHIGHn"),
  (0xAAAE, "dLOW OdHIGHncMAI KANGcVOWEL AAdIdUEdUdEdOcMAI KHITcVOWEL IAdUEAdUAdAUEdAYdANdAM"),
  (0xAABF, "cTONE MAI EKeNUENGeTHOeSONG"),
  (0xAADB, "cSYMBOL KONdNUENGdSAMdHO HOIdKOI KOIaMEETEI MAYEK LETTER EdOdCHAdNYAdTTAdTTHAdDDA"),
  (0xAAE7, "dDDHAdNNAdSHAdSSAcVOWEL SIGN IIeUUeAAIeAUeAAUcCHEIKHANcAHANG KHUDAMcANJI"),
  (0xAAF3, "cSYLLABLE REPETITION MARKcWORDocVOWEL SIGN VISARGAcVIRAMA"),
  (0xAB01, "aETHIOPIC SYLLABLE TTHUcTTHIcTTHAAcTTHEEcTTHEcTTHO"),
  (0xAB09, "cDDHUcDDHIcDDHAAcDDHEEcDDHEcDDHO"),
  (0xAB11, "cDZUcDZIcDZAAcDZEEcDZEcDZO"),
  (0xAB20, "cCCHHAcCCHHUcCCHHIcCCHHAAcCCHHEEcCCHHEcCCHHO"),
  (0xAB28, "cBBAcBBUcBBIcBBAAcBBEEcBBEcBBO"),
  (0xAB30, "aLATIN SMALL LETTER BARRED ALPHAdA REVERSED-SCHWAdBLACKLETTER EdBARREDn"),
  (0xAB34, "dE WITH FLOURISHdLENIS FdSCRIPT G WITH CROSSED-TAILdL WITH INVERTED LAZY S"),
  (0xAB38, "fDOUBLE MIDDLE TILDEfMIDDLE RINGdM WITH CROSSED-TAILdNodENGodBLACKLETTER O"),
  (0xAB3E, "fWITH STROKEdOPENpdINVERTED OEdTURNED OE WITH STROKEgHORIZONTALneO OPEN-OgWITH STROKE"),
  (0xAB45, "dSTIRRUP RbLETTER SMALL CAPITAL R WITH RIGHT LEGbSMALL LETTER R WITHOUT HANDLE"),
  (0xAB48, "dDOUBLE RdR WITH CROSSED-TAILdDOUBLEpdSCRIPT RfWITH RINGdBASELINE ESH"),
  (0xAB4E, "dU WITH SHORT RIGHT LEGeBARqdUIdTURNEDndU WITH LEFT HOOKdCHIeWITH LOW RIGHT RING"),
  (0xAB55, "gLEFT SERIFdX WITH LOW RIGHT RINGfLONG LEFT LEGiAND LOW RIGHT RINGiWITH SERIF"),
  (0xAB5A, "dY WITH SHORT RIGHT LEGaMODIFIER BREVE WITH INVERTED BREVEbLETTER SMALL HENG"),
  (0xAB5D, "dL WITH INVERTED LAZY SfMIDDLE TILDEdU WITH LEFT HOOKaLATIN SMALL LETTER SAKHA YAT"),
  (0xAB61, "dIOTIFIED EdOPEN OEdUOdINVERTED ALPHAaGREEK LETTER SMALL CAPITAL OMEGA"),
  (0xAB66, "aLATIN SMALL LETTER DZ DIGRAPH WITH RETROFLEX HOOKdTSqdTURNED R WITH MIDDLE TILDE"),
  (0xAB69, "aMODIFIER LETTER SMALL TURNED WcLEFT TACKcRIGHTn"),
  (0xAB70, "aCHEROKEE SMALL LETTER AdEdIdOdUdVdGAdKAdGEdGIdGOdGUdGVdHAdHEdHIdHOdHUdHVdLAdLEdLIdLO"),
  (0xAB87, "dLUdLVdMAdMEdMIdMOdMUdNAdHNAdNAHdNEdNIdNOdNUdNVdQUAdQUEdQUIdQUOdQUUdQUVdSAdSdSEdSIdSO"),
  (0xABA1, "dSUdSVdDAdTAdDEdTEdDIdTIdDOdDUdDVdDLAdTLAdTLEdTLIdTLOdTLUdTLVdTSAdTSEdTSIdTSOdTSUdTSV"),
  (0xABB9, "dWAdWEdWIdWOdWUdWVdYAaMEETEI MAYEK LETTER KOKdSAMdLAIdMITdPAdNAdCHILdTILdKHOUdNGOU"),
  (0xABCA, "dTHOUdWAIdYANGdHUKdUNdIdPHAMdATIYAdGOKdJHAMdRAIdBAdJILdDILdGHOUdDHOUdBHAMdKOK LONSUM"),
  (0xABDC, "dLAIndMITndPAndNAndTILndNGOUndIncVOWEL SIGN ONAPeINAPeANAPeYENAPeSOUNAPeUNAPeCHEINAP"),
  (0xABEA, "eNUNGcCHEIKHEIcLUM IYEKcAPUNn"),
  (0xABF0, "cDIGIT ZEROdONEdTWOdTHREEdFOURdFIVEdSIXdSEVENdEIGHTdNINE"),
  (0xD7B0, "aHANGUL JUNGSEONG O-YEOcO-O-IcYO-AcYO-AEcYO-EOcU-YEOcU-I-IcYU-AEcYU-OcEU-AcEU-EOcEU-E"),
  (0xD7BC, "cEU-OcI-YA-OcI-YAEcI-YEOcI-YEcI-O-IcI-YOcI-YUcI-IcARAEA-AcARAEA-E"),
  (0xD7CB, "bJONGSEONG NIEUN-RIEULcNIEUN-CHIEUCHcSSANGTIKEUTcSSANGTIKEUT-PIEUPcTIKEUT-PIEUP"),
  (0xD7D0, "cTIKEUT-SIOScTIKEUT-SIOS-KIYEOKcTIKEUT-CIEUCcTIKEUT-CHIEUCHcTIKEUT-THIEUTH"),
  (0xD7D5, "cRIEUL-SSANGKIYEOKcRIEUL-KIYEOK-HIEUHcSSANGRIEUL-KHIEUKHcRIEUL-MIEUM-HIEUH"),
  (0xD7D9, "cRIEUL-PIEUP-TIKEUTcRIEUL-PIEUP-PHIEUPHcRIEUL-YESIEUNGcRIEUL-YEORINHIEUH-HIEUH"),
  (0xD7DD, "cKAPYEOUNRIEULcMIEUM-NIEUNcMIEUM-SSANGNIEUNcSSANGMIEUMcMIEUM-PIEUP-SIOScMIEUM-CIEUC"),
  (0xD7E3, "cPIEUP-TIKEUTcPIEUP-RIEUL-PHIEUPHcPIEUP-MIEUMcSSANGPIEUPcPIEUP-SIOS-TIKEUT"),
  (0xD7E8, "cPIEUP-CIEUCcPIEUP-CHIEUCHcSIOS-MIEUMcSIOS-KAPYEOUNPIEUPcSSANGSIOS-KIYEOK"),
  (0xD7ED, "cSSANGSIOS-TIKEUTcSIOS-PANSIOScSIOS-CIEUCcSIOS-CHIEUCHcSIOS-THIEUTHcSIOS-HIEUH"),
  (0xD7F3, "cPANSIOS-PIEUPcPANSIOS-KAPYEOUNPIEUPcYESIEUNG-MIEUMcYESIEUNG-HIEUHcCIEUC-PIEUP"),
  (0xD7F8, "cCIEUC-SSANGPIEUPcSSANGCIEUCcPHIEUPH-SIOScPHIEUPH-THIEUTH"),
  (0xFB00, "aLATIN SMALL LIGATURE FFdFIdFLdFFIdFFLdLONG S TdST"),
  (0xFB13, "aARMENIAN SMALL LIGATURE MEN NOWeECHeINIdVEW NOWdMEN XEH"),
  (0xFB1D, "aHEBREW LETTER YOD WITH HIRIQbPOINT JUDEO-SPANISH VARIKA"),
  (0xFB1F, "bLIGATURE YIDDISH YOD YOD PATAHbLETTER ALTERNATIVE AYINcWIDE ALEFdDALETdHEdKAFdLAMED"),
  (0xFB26, "dFINAL MEMdRESHdTAVcALTERNATIVE PLUS SIGNcSHIN WITH SHIN DOTeSINneDAGESH AND SHINn"),
  (0xFB2D, "gSINncALEF WITH PATAHeQAMATSeMAPIQcBET WITH DAGESHcGIMELocDALETocHE WITH MAPIQ"),
  (0xFB35, "cVAV WITH DAGESHcZAYINo"),
  (0xFB38, "cTETocYODocFINAL KAFocpcLAMEDo"),
  (0xFB3E, "cMEMo"),
  (0xFB40, "cNUNocSAMEKHo"),
  (0xFB43, "cFINAL PEocp"),
  (0xFB46, "cTSADIocQOFocRESHocSHINocTAVocVAV WITH HOLAMcBET WITH RAFEcKAFocPEo"),
  (0xFB4F, "bLIGATURE ALEF LAMEDaARABIC LETTER ALEF WASLA ISOLATED FORMeFINALncBEEH ISOLATEDn"),
  (0xFB53, "dFINALndINITIALndMEDIALncPEH ISOLATEDndFINALndINITIALndMEDIALncBEHEH ISOLATEDndFINALn"),
  (0xFB5C, "dINITIALndMEDIALncTTEHEH ISOLATEDndFINALndINITIALndMEDIALncTEHEH ISOLATEDndFINALn"),
  (0xFB64, "dINITIALndMEDIALncTTEH ISOLATEDndFINALndINITIALndMEDIALncVEH ISOLATEDndFINALn"),
  (0xFB6C, "dINITIALndMEDIALncPEHEH ISOLATEDndFINALndINITIALndMEDIALncDYEH ISOLATEDndFINALn"),
  (0xFB74, "dINITIALndMEDIALncNYEH ISOLATEDndFINALndINITIALndMEDIALncTCHEH ISOLATEDndFINALn"),
  (0xFB7C, "dINITIALndMEDIALncTCHEHEH ISOLATEDndFINALndINITIALndMEDIALncDDAHAL ISOLATEDndFINALn"),
  (0xFB84, "cDAHAL ISOLATEDndFINALncDUL ISOLATEDndFINALncDDAL ISOLATEDndFINALncJEH ISOLATEDn"),
  (0xFB8B, "dFINALncRREH ISOLATEDndFINALncKEHEH ISOLATEDndFINALndINITIALndMEDIALncGAF ISOLATEDn"),
  (0xFB93, "dFINALndINITIALndMEDIALncGUEH ISOLATEDndFINALndINITIALndMEDIALncNGOEH ISOLATEDn"),
  (0xFB9B, "dFINALndINITIALndMEDIALncNOON GHUNNA ISOLATEDneFINALncRNOON ISOLATEDndFINALndINITIALn"),
  (0xFBA3, "dMEDIALncHEH WITH YEH ABOVE ISOLATEDngFINALndGOAL ISOLATEDneFINALneINITIALneMEDIALn"),
  (0xFBAA, "dDOACHASHMEE ISOLATEDneFINALneINITIALneMEDIALncYEH BARREE ISOLATEDneFINALn"),
  (0xFBB0, "eWITH HAMZA ABOVE ISOLATEDnhFINALnbSYMBOL DOT ABOVEdBELOWcTWO DOTS ABOVEeBELOW"),
  (0xFBB6, "cTHREE DOTS ABOVEeBELOWePOINTING DOWNWARDS ABOVEgBELOWcFOUR DOTS ABOVEeBELOW"),
  (0xFBBC, "cDOUBLE VERTICAL BARncTWO DOTS VERTICALLY ABOVEfBELOWcRINGcSMALL TAH ABOVEeBELOW"),
  (0xFBC2, "cWASLA ABOVE"),
  (0xFBD3, "bLETTER NG ISOLATED FORMdFINALndINITIALndMEDIALncU ISOLATEDndFINALncOE ISOLATEDn"),
  (0xFBDA, "dFINALncYU ISOLATEDndFINALncU WITH HAMZA ABOVE ISOLATEDncVEodFINALn"),
  (0xFBE0, "cKIRGHIZ OE ISOLATEDneFINALndYU ISOLATEDneFINALncE ISOLATEDndFINALndINITIALndMEDIALn"),
  (0xFBE8, "cUIGHUR KAZAKH KIRGHIZ ALEF MAKSURA INITIALnhMEDIALn"),
  (0xFBEA, "bLIGATURE YEH WITH HAMZA ABOVE WITH ALEF ISOLATEDniFINALnhAE ISOLATEDniFINALn"),
  (0xFBEE, "hWAW ISOLATEDniFINALnhU ISOLATEDniFINALnhOE ISOLATEDniFINALnhYU ISOLATEDniFINALn"),
  (0xFBF6, "hE ISOLATEDniFINALniINITIALn"),
  (0xFBF9, "cUIGHUR KIRGHIZ YEH WITH HAMZA ABOVE WITH ALEF MAKSURA ISOLATEDnlFINALnlINITIALn"),
  (0xFBFC, "bLETTER FARSI YEH ISOLATEDneFINALneINITIALneMEDIALn"),
  (0xFC00, "bLIGATURE YEH WITH HAMZA ABOVE WITH JEEM ISOLATEDnhHAHohMEEMohALEF MAKSURAohYEHo"),
  (0xFC05, "cBEH WITH JEEMoeHAHoeKHAHoeMEEMoeALEF MAKSURAoeYEHocTEH WITH JEEMoeHAHoeKHAHoeMEEMo"),
  (0xFC0F, "eALEF MAKSURAoeYEHocTHEH WITH JEEMoeMEEMoeALEF MAKSURAoeYEHocJEEM WITH HAHoeMEEMo"),
  (0xFC17, "cHAH WITH JEEMoeMEEMocKHAH WITH JEEMoeHAHoeMEEMocSEEN WITH JEEMoeHAHoeKHAHoeMEEMo"),
  (0xFC20, "cSAD WITH HAHoeMEEMocDAD WITH JEEMoeHAHoeKHAHoeMEEMocTAH WITH HAHoeMEEMocZAHq"),
  (0xFC29, "cAIN WITH JEEMoeMEEMocGHAIN WITH JEEMoeMEEMocFEH WITH JEEMoeHAHoeKHAHoeMEEMo"),
  (0xFC31, "eALEF MAKSURAoeYEHocQAF WITH HAHoeMEEMoeALEF MAKSURAoeYEHocKAF WITH ALEFoeJEEMoeHAHo"),
  (0xFC3A, "eKHAHoeLAMoeMEEMoeALEF MAKSURAoeYEHocLAM WITH JEEMoeHAHoeKHAHoeMEEMoeALEF MAKSURAo"),
  (0xFC44, "eYEHocMEEM WITH JEEMoeHAHoeKHAHoeMEEMoeALEF MAKSURAoeYEHocNOON WITH JEEMoeHAHoeKHAHo"),
  (0xFC4E, "eMEEMoeALEF MAKSURAoeYEHocHEH WITH JEEMoeMEEMoeALEF MAKSURAoeYEHocYEH WITH JEEMoeHAHo"),
  (0xFC57, "eKHAHoeMEEMoeALEF MAKSURAoeYEHocTHAL WITH SUPERSCRIPT ALEFocREHrcALEF MAKSURAr"),
  (0xFC5E, "cSHADDA WITH DAMMATANoeKASRATANoeFATHAoeDAMMAoeKASRAoeSUPERSCRIPT ALEFo"),
  (0xFC64, "cYEH WITH HAMZA ABOVE WITH REH FINALnhZAINohMEEMohNOONohALEF MAKSURAohYEHo"),
  (0xFC6A, "cBEH WITH REHoeZAINoeMEEMoeNOONoeALEF MAKSURAoeYEHocTEH WITH REHoeZAINoeMEEMoeNOONo"),
  (0xFC74, "eALEF MAKSURAoeYEHocTHEH WITH REHoeZAINoeMEEMoeNOONoeALEF MAKSURAoeYEHo"),
  (0xFC7C, "cFEH WITH ALEF MAKSURAoeYEHocQAF WITH ALEF MAKSURAoeYEHocKAF WITH ALEFoeLAMoeMEEMo"),
  (0xFC83, "eALEF MAKSURAoeYEHocLAM WITH MEEMoeALEF MAKSURAoeYEHocMEEM WITH ALEFoeMEEMo"),
  (0xFC8A, "cNOON WITH REHoeZAINoeMEEMoeNOONoeALEF MAKSURAoeYEHo"),
  (0xFC90, "cALEF MAKSURA WITH SUPERSCRIPT ALEFocYEH WITH REHoeZAINoeMEEMoeNOONoeALEF MAKSURAo"),
  (0xFC96, "eYEHoeHAMZA ABOVE WITH JEEM INITIALnhHAHohKHAHohMEEMohHEHocBEH WITH JEEMoeHAHoeKHAHo"),
  (0xFC9F, "eMEEMoeHEHocTEH WITH JEEMoeHAHoeKHAHoeMEEMoeHEHocTHEH WITH MEEMocJEEM WITH HAHoeMEEMo"),
  (0xFCA9, "cHAH WITH JEEMoeMEEMocKHAH WITH JEEMoeMEEMocSEEN WITH JEEMoeHAHoeKHAHoeMEEMo"),
  (0xFCB1, "cSAD WITH HAHoeKHAHoeMEEMocDAD WITH JEEMoeHAHoeKHAHoeMEEMocTAH WITH HAHo"),
  (0xFCB9, "cZAH WITH MEEMocAIN WITH JEEMoeMEEMocGHAIN WITH JEEMoeMEEMocFEH WITH JEEMoeHAHoeKHAHo"),
  (0xFCC1, "eMEEMocQAF WITH HAHoeMEEMocKAF WITH JEEMoeHAHoeKHAHoeLAMoeMEEMocLAM WITH JEEMoeHAHo"),
  (0xFCCB, "eKHAHoeMEEMoeHEHocMEEM WITH JEEMoeHAHoeKHAHoeMEEMocNOON WITH JEEMoeHAHoeKHAHoeMEEMo"),
  (0xFCD6, "eHEHocHEH WITH JEEMoeMEEMoeSUPERSCRIPT ALEFocYEH WITH JEEMoeHAHoeKHAHoeMEEMoeHEHo"),
  (0xFCDF, "eHAMZA ABOVE WITH MEEM MEDIALnhHEHocBEH WITH MEEMoeHEHocTEH WITH MEEMoeHEHo"),
  (0xFCE5, "cTHEH WITH MEEMoeHEHocSEEN WITH MEEMoeHEHocSHEEN WITH MEEMoeHEHocKAF WITH LAMoeMEEMo"),
  (0xFCED, "cLAMqcNOONqeHEHocYEH WITH MEEMoeHEHocSHADDA WITH FATHAoeDAMMAoeKASRAo"),
  (0xFCF5, "cTAH WITH ALEF MAKSURA ISOLATEDneYEHocAIN WITH ALEF MAKSURAoeYEHo"),
  (0xFCF9, "cGHAIN WITH ALEF MAKSURAoeYEHocSEEN WITH ALEF MAKSURAoeYEHocSHEEN WITH ALEF MAKSURAo"),
  (0xFCFE, "eYEHocHAH WITH ALEF MAKSURAoeYEHocJEEM WITH ALEF MAKSURAoeYEHo"),
  (0xFD03, "cKHAH WITH ALEF MAKSURAoeYEHocSAD WITH ALEF MAKSURAoeYEHocDAD WITH ALEF MAKSURAoeYEHo"),
  (0xFD09, "cSHEEN WITH JEEMoeHAHoeKHAHoeMEEMoeREHocSEENqcSADqcDADqcTAH WITH ALEF MAKSURA FINALn"),
  (0xFD12, "eYEHocAIN WITH ALEF MAKSURAoeYEHocGHAIN WITH ALEF MAKSURAoeYEHo"),
  (0xFD17, "cSEEN WITH ALEF MAKSURAoeYEHocSHEEN WITH ALEF MAKSURAoeYEHocHAH WITH ALEF MAKSURAo"),
  (0xFD1C, "eYEHocJEEM WITH ALEF MAKSURAoeYEHocKHAH WITH ALEF MAKSURAoeYEHo"),
  (0xFD21, "cSAD WITH ALEF MAKSURAoeYEHocDAD WITH ALEF MAKSURAoeYEHocSHEEN WITH JEEMoeHAHoeKHAHo"),
  (0xFD28, "eMEEMoeREHocSEENqcSADqcDADqcSHEEN WITH JEEM INITIALneHAHoeKHAHoeMEEMocSEEN WITH HEHo"),
  (0xFD32, "cSHEENqcTAH WITH MEEMocSEEN WITH JEEM MEDIALneHAHoeKHAHocSHEEN WITH JEEMoeHAHoeKHAHo"),
  (0xFD3A, "cTAH WITH MEEMocZAHqcALEF WITH FATHATAN FINALnfISOLATEDnaORNATE LEFT PARENTHESIS"),
  (0xFD3F, "bRIGHTnaARABIC LIGATURE RAHIMAHU ALLAAHcRADI ALLAAHU ANHeANHAAeANHUMeANHUMAAeANHUNNA"),
  (0xFD46, "cSALLALLAAHU ALAYHI WA-AALIHcALAYHI AS-SALAAMcALAYHIMncALAYHIMAAn"),
  (0xFD4A, "cALAYHI AS-SALAATU WAS-SALAAMcQUDDISA SIRRAHcSALLALLAHU ALAYHI WAAALIHEE WA-SALLAM"),
  (0xFD4D, "cALAYHAA AS-SALAAMcTABAARAKA WA-TAAALAAcRAHIMAHUM ALLAAH"),
  (0xFD50, "cTEH WITH JEEM WITH MEEM INITIAL FORMeHAH WITH JEEM FINALnhINITIALngMEEMoeKHAHq"),
  (0xFD55, "eMEEM WITH JEEMogHAHogKHAHocJEEM WITH MEEM WITH HAH FINALnhINITIALn"),
  (0xFD5A, "cHAH WITH MEEM WITH YEH FINALngALEF MAKSURAocSEEN WITH HAH WITH JEEM INITIALn"),
  (0xFD5D, "eJEEM WITH HAHogALEF MAKSURA FINALneMEEM WITH HAHohINITIALngJEEMogMEEM FINALn"),
  (0xFD63, "hINITIALncSAD WITH HAH WITH HAH FINALnhINITIALneMEEM WITH MEEM FINALncSHEEN WITH HAHq"),
  (0xFD68, "hINITIALneJEEM WITH YEH FINALneMEEM WITH KHAHohINITIALngMEEM FINALnhINITIALn"),
  (0xFD6E, "cDAD WITH HAH WITH ALEF MAKSURA FINALneKHAH WITH MEEMohINITIALn"),
  (0xFD71, "cTAH WITH MEEM WITH HAH FINALnhINITIALngMEEMogYEH FINALncAIN WITH JEEM WITH MEEMo"),
  (0xFD76, "eMEEMqhINITIALngALEF MAKSURA FINALncGHAIN WITH MEEM WITH MEEMogYEHogALEF MAKSURAo"),
  (0xFD7C, "cFEH WITH KHAH WITH MEEMohINITIALncQAF WITH MEEM WITH HAH FINALngMEEMocLAM WITH HAHq"),
  (0xFD81, "gYEHogALEF MAKSURAoeJEEM WITH JEEM INITIALnhFINALneKHAH WITH MEEMohINITIALn"),
  (0xFD87, "eMEEM WITH HAH FINALnhINITIALncMEEM WITH HAH WITH JEEMogMEEMogYEH FINALn"),
  (0xFD8C, "eJEEM WITH HAH INITIALngMEEMoeKHAH WITH JEEMogMEEMo"),
  (0xFD92, "eJEEM WITH KHAHocHEH WITH MEEM WITH JEEMogMEEMocNOON WITH HAHqgALEF MAKSURA FINALn"),
  (0xFD97, "eJEEM WITH MEEMohINITIALngALEF MAKSURA FINALneMEEM WITH YEHogALEF MAKSURAo"),
  (0xFD9C, "cYEH WITH MEEM WITH MEEMohINITIALncBEH WITH KHAH WITH YEH FINALncTEH WITH JEEMq"),
  (0xFDA0, "gALEF MAKSURAoeKHAH WITH YEHogALEF MAKSURAoeMEEM WITH YEHogALEF MAKSURAo"),
  (0xFDA5, "cJEEM WITH MEEM WITH YEHoeHAH WITH ALEF MAKSURAoeMEEMrcSEEN WITH KHAHr"),
  (0xFDA9, "cSAD WITH HAH WITH YEHocSHEENscDADscLAM WITH JEEMqeMEEMqcYEH WITH HAHqeJEEMqeMEEMq"),
  (0xFDB1, "cMEEMscQAFscNOON WITH HAHqcQAF WITH MEEM WITH HAH INITIALncLAM WITH HAH WITH MEEMo"),
  (0xFDB6, "cAIN WITH MEEM WITH YEH FINALncKAFscNOON WITH JEEM WITH HAH INITIALn"),
  (0xFDB9, "cMEEM WITH KHAH WITH YEH FINALncLAM WITH JEEM WITH MEEM INITIALn"),
  (0xFDBB, "cKAF WITH MEEM WITH MEEM FINALncLAM WITH JEEMqcNOON WITH JEEM WITH HAHo"),
  (0xFDBE, "cJEEM WITH HAH WITH YEHocHAH WITH JEEMqcMEEMscFEH WITH MEEMqcBEH WITH HAHq"),
  (0xFDC3, "cKAF WITH MEEM WITH MEEM INITIALncAIN WITH JEEMqcSAD WITH MEEMq"),
  (0xFDC6, "cSEEN WITH KHAH WITH YEH FINALncNOON WITH JEEMq"),
  (0xFDCF, "cSALAAMUHU ALAYNAA"),
  (0xFDF0, "cSALLA USED AS KORANIC STOP SIGN ISOLATED FORMcQALAtcALLAHocAKBARocMOHAMMADocSALAMo"),
  (0xFDF6, "cRASOULocALAYHEocWASALLAMocSALLAocSALLALLAHOU ALAYHE WASALLAMcJALLAJALALOUHOU"),
  (0xFDFC, "aRIAL SIGNaARABIC LIGATURE BISMILLAH AR-RAHMAN AR-RAHEEMcSUBHAANAHU WA TAAALAA"),
  (0xFDFF, "cAZZA WA JALL"),
  (0xFE10, "aPRESENTATION FORM FOR VERTICAL COMMAeIDEOGRAPHICnfFULL STOPeCOLONeSEMICOLON"),
  (0xFE15, "eEXCLAMATION MARKeQUESTIONneLEFT WHITE LENTICULAR BRACKET"),
  (0xFE18, "eRIGHT WHITE LENTICULAR BRAKCETeHORIZONTAL ELLIPSIS"),
  (0xFE20, "aCOMBINING LIGATURE LEFT HALFcRIGHTnbDOUBLE TILDE LEFTndRIGHTnbMACRON LEFTncRIGHTn"),
  (0xFE26, "bCONJOINING MACRONbLIGATURE LEFT HALF BELOWcRIGHTobTILDE LEFTocRIGHTobMACRON LEFTo"),
  (0xFE2C, "cRIGHTobCONJOINING MACRONnbCYRILLIC TITLO LEFT HALFdRIGHTn"),
  (0xFE30, "aPRESENTATION FORM FOR VERTICAL TWO DOT LEADEReEM DASHeENneLOW LINEeWAVYo"),
  (0xFE35, "eLEFT PARENTHESISeRIGHTneLEFT CURLY BRACKETeRIGHToeLEFT TORTOISE SHELLneRIGHTp"),
  (0xFE3B, "eLEFT BLACK LENTICULARneRIGHTpeLEFT DOUBLE ANGLEneRIGHTpeLEFToeRIGHToeLEFT CORNERn"),
  (0xFE42, "eRIGHToeLEFT WHITEoeRIGHTpaSESAME DOTaWHITEo"),
  (0xFE47, "aPRESENTATION FORM FOR VERTICAL LEFT SQUARE BRACKETeRIGHToaDASHED OVERLINE"),
  (0xFE4A, "aCENTRELINEnaWAVYnaDOUBLEoaDASHED LOW LINEaCENTRELINEoaWAVYoaSMALL COMMAbIDEOGRAPHICn"),
  (0xFE52, "bFULL STOP"),
  (0xFE54, "bSEMICOLONbCOLONbQUESTION MARKbEXCLAMATIONnbEM DASHbLEFT PARENTHESISbRIGHTn"),
  (0xFE5B, "bLEFT CURLY BRACKETbRIGHTobLEFT TORTOISE SHELLnbRIGHTpbNUMBER SIGNbAMPERSANDbASTERISK"),
  (0xFE62, "bPLUS SIGNbHYPHEN-MINUSbLESS-THAN SIGNbGREATER-THANnbEQUALSn"),
  (0xFE68, "bREVERSE SOLIDUSbDOLLAR SIGNbPERCENTnbCOMMERCIAL AT"),
  (0xFE70, "aARABIC FATHATAN ISOLATED FORMbTATWEEL WITH FATHATAN ABOVEbDAMMATAN ISOLATED FORM"),
  (0xFE73, "bTAIL FRAGMENTbKASRATAN ISOLATED FORM"),
  (0xFE76, "bFATHAocMEDIALnbDAMMA ISOLATEDncMEDIALnbKASRA ISOLATEDncMEDIALnbSHADDA ISOLATEDn"),
  (0xFE7D, "cMEDIALnbSUKUN ISOLATEDncMEDIALnbLETTER HAMZA ISOLATEDncALEF WITH MADDA ABOVEogFINALn"),
  (0xFE83, "eHAMZA ABOVE ISOLATEDngFINALncWAW WITH HAMZA ABOVE ISOLATEDngFINALn"),
  (0xFE87, "cALEF WITH HAMZA BELOW ISOLATEDngFINALncYEH WITH HAMZA ABOVE ISOLATEDngFINALn"),
  (0xFE8B, "gINITIALngMEDIALncALEF ISOLATEDndFINALncBEH ISOLATEDndFINALndINITIALndMEDIALn"),
  (0xFE93, "cTEH MARBUTA ISOLATEDneFINALndISOLATEDndFINALndINITIALndMEDIALncTHEH ISOLATEDndFINALn"),
  (0xFE9B, "dINITIALndMEDIALncJEEM ISOLATEDndFINALndINITIALndMEDIALncHAH ISOLATEDndFINALn"),
  (0xFEA3, "dINITIALndMEDIALncKHAH ISOLATEDndFINALndINITIALndMEDIALncDAL ISOLATEDndFINALn"),
  (0xFEAB, "cTHAL ISOLATEDndFINALncREH ISOLATEDndFINALncZAIN ISOLATEDndFINALncSEEN ISOLATEDn"),
  (0xFEB2, "dFINALndINITIALndMEDIALncSHEEN ISOLATEDndFINALndINITIALndMEDIALncSAD ISOLATEDndFINALn"),
  (0xFEBB, "dINITIALndMEDIALncDAD ISOLATEDndFINALndINITIALndMEDIALncTAH ISOLATEDndFINALndINITIALn"),
  (0xFEC4, "dMEDIALncZAH ISOLATEDndFINALndINITIALndMEDIALncAIN ISOLATEDndFINALndINITIALndMEDIALn"),
  (0xFECD, "cGHAIN ISOLATEDndFINALndINITIALndMEDIALncFEH ISOLATEDndFINALndINITIALndMEDIALn"),
  (0xFED5, "cQAF ISOLATEDndFINALndINITIALndMEDIALncKAF ISOLATEDndFINALndINITIALndMEDIALn"),
  (0xFEDD, "cLAM ISOLATEDndFINALndINITIALndMEDIALncMEEM ISOLATEDndFINALndINITIALndMEDIALn"),
  (0xFEE5, "cNOON ISOLATEDndFINALndINITIALndMEDIALncHEH ISOLATEDndFINALndINITIALndMEDIALn"),
  (0xFEED, "cWAW ISOLATEDndFINALncALEF MAKSURA ISOLATEDneFINALncYEH ISOLATEDndFINALndINITIALn"),
  (0xFEF4, "dMEDIALnbLIGATURE LAM WITH ALEF WITH MADDA ABOVE ISOLATEDniFINALn"),
  (0xFEF7, "gHAMZA ABOVE ISOLATEDniFINALnhBELOW ISOLATEDniFINALnfISOLATEDnfFINALn"),
  (0xFEFF, "aZERO WIDTH NO-BREAK SPACE"),
  (0xFF01, "aFULLWIDTH EXCLAMATION MARKbQUOTATIONnbNUMBER SIGNbDOLLARnbPERCENTnbAMPERSAND"),
  (0xFF07, "bAPOSTROPHEbLEFT PARENTHESISbRIGHTnbASTERISKbPLUS SIGNbCOMMAbHYPHEN-MINUSbFULL STOP"),
  (0xFF0F, "bSOLIDUSbDIGIT ZEROcONEcTWOcTHREEcFOURcFIVEcSIXcSEVENcEIGHTcNINEbCOLONbSEMICOLON"),
  (0xFF1C, "bLESS-THAN SIGNbEQUALSnbGREATER-THANnbQUESTION MARKbCOMMERCIAL AT"),
  (0xFF21, "bLATIN CAPITAL LETTER AeBeCeDeEeFeGeHeIeJeKeLeMeNeOePeQeReSeTeUeVeWeXeYeZ"),
  (0xFF3B, "bLEFT SQUARE BRACKETbREVERSE SOLIDUSbRIGHT SQUARE BRACKETbCIRCUMFLEX ACCENTbLOW LINE"),
  (0xFF40, "bGRAVE ACCENTbLATIN SMALL LETTER AeBeCeDeEeFeGeHeIeJeKeLeMeNeOePeQeReSeTeUeVeWeXeYeZ"),
  (0xFF5B, "bLEFT CURLY BRACKETbVERTICAL LINEbRIGHT CURLY BRACKETbTILDEbLEFT WHITE PARENTHESIS"),
  (0xFF60, "bRIGHToaHALFWIDTH IDEOGRAPHIC FULL STOPbLEFT CORNER BRACKETbRIGHTobIDEOGRAPHIC COMMA"),
  (0xFF65, "bKATAKANA MIDDLE DOTcLETTER WOdSMALL AeIeUeEeOeYAeYUeYOeTU"),
  (0xFF70, "bKATAKANA-HIRAGANA PROLONGED SOUND MARKbKATAKANA LETTER AdIdUdEdOdKAdKIdKUdKEdKOdSA"),
  (0xFF7C, "dSIdSUdSEdSOdTAdTIdTUdTEdTOdNAdNIdNUdNEdNOdHAdHIdHUdHEdHOdMAdMIdMUdMEdMOdYAdYUdYOdRA"),
  (0xFF98, "dRIdRUdREdROdWAdNcVOICED SOUND MARKcSEMI-VOICEDobHANGUL FILLERcLETTER KIYEOK"),
  (0xFFA2, "dSSANGKIYEOKdKIYEOK-SIOSdNIEUNdNIEUN-CIEUCdNIEUN-HIEUHdTIKEUTdSSANGTIKEUTdRIEUL"),
  (0xFFAA, "dRIEUL-KIYEOKdRIEUL-MIEUMdRIEUL-PIEUPdRIEUL-SIOSdRIEUL-THIEUTHdRIEUL-PHIEUPH"),
  (0xFFB0, "dRIEUL-HIEUHdMIEUMdPIEUPdSSANGPIEUPdPIEUP-SIOSdSIOSdSSANGSIOSdIEUNGdCIEUCdSSANGCIEUC"),
  (0xFFBA, "dCHIEUCHdKHIEUKHdTHIEUTHdPHIEUPHdHIEUH"),
  (0xFFC2, "dAdAEdYAdYAEdEOdE"),
  (0xFFCA, "dYEOdYEdOdWAdWAEdOE"),
  (0xFFD2, "dYOdUdWEOdWEdWIdYU"),
  (0xFFDA, "dEUdYIdI"),
  (0xFFE0, "aFULLWIDTH CENT SIGNbPOUNDnbNOTnbMACRONbBROKEN BARbYEN SIGNbWONn"),
  (0xFFE8, "aHALFWIDTH FORMS LIGHT VERTICALbLEFTWARDS ARROWbUPWARDSnbRIGHTWARDSnbDOWNWARDSn"),
  (0xFFED, "bBLACK SQUAREbWHITE CIRCLE"),
  (0xFFF9, "aINTERLINEAR ANNOTATION ANCHORcSEPARATORcTERMINATORaOBJECT REPLACEMENT CHARACTERao")]

end BooksGateway.Text.CharName
